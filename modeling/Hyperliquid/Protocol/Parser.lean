import Hyperliquid.Protocol.OrderAcks

/-!
# Messages of the web socket

The parser that tells the type of a message and calls the handler for it:
`src/roq/hyperliquid/protocol/json/parser.cpp`. It visits the message by five nested callbacks.
The decoders of a whole message and of the enumerations are generated.
-/

namespace Hyperliquid.Protocol.Json

open Hyperliquid.Base Hyperliquid.Base.CoreJson Hyperliquid.Web

/-- `protocol::json::Channel`, `channel.json`. -/
inductive Channel where
  | undefinedInternal
  | unknownInternal
  | pong
  | error
  | post
  | subscriptionResponse
  | bbo
  | l2Book
  | trades
  | activeAssetCtx
  | user
  | userFundings
  | userFills
  | orderUpdates
  | notification
  deriving DecidableEq, Repr

/-- `protocol::json::PayloadType`, `payload_type.json`. -/
inductive PayloadType where
  | undefinedInternal
  | unknownInternal
  | spotMeta
  | action
  deriving DecidableEq, Repr

/-- `protocol::json::ResponseType`, `response_type.json`. -/
inductive ResponseType where
  | undefinedInternal
  | unknownInternal
  | info
  | action
  | error
  | order
  | cancel
  deriving DecidableEq, Repr

/-- The messages that `Parser::Handler` takes, `parser.hpp:38–59`. -/
inductive MessageType where
  | pong
  | error
  | subscriptionResponse
  | bbo
  | l2Book
  | trades
  | activeAssetCtx
  | spotMeta
  | user
  | userFundings
  | userFills
  | orderUpdates
  | notification
  | actionError
  | actionOrder
  | actionCancel
  deriving DecidableEq, Repr

/-- The generated constructors, none of which throws; `τ` has the decoded messages. -/
structure Decoders (τ : Type) where
  channel : Value → Channel
  payloadType : Value → PayloadType
  responseType : Value → ResponseType
  status : Value → Status
  message : MessageType → Value → τ

/-- The variables that the callbacks capture, `parser.cpp:42, 73, 142`. -/
structure Captured where
  result : Bool := false
  status : Status := .undefinedInternal
  channel : Channel := .undefinedInternal
  deriving DecidableEq, Repr

/-- `std::get<core::json::Object>`. -/
def getObject {ω : Type} : Value → Proc ω Exception (List (String × Value))
  | .object members => pure members
  | _ => Proc.throw (.std badVariantAccess)

namespace Parser

section

variable {τ : Type} (hash : KeyHash) (decoders : Decoders τ) (allowUnknownEventTypes : Bool)
  (message : Value)

/-- `result = dispatch_helper<T>(…); return true;`: decodes the message and calls the handler,
which emits what it takes. -/
def dispatchHelper (type : MessageType) (s : Captured) : Proc τ Exception (Captured × Bool) := do
  Proc.emit (decoders.message type message)
  pure ({ s with result := true }, true)

/-- An unknown value: the callback returns false if these are allowed. -/
def unknownInternal (s : Captured) : Proc τ Exception (Captured × Bool) :=
  if allowUnknownEventTypes then pure (s, false) else pure (s, s.result)

/-- `helper_post_response_payload_response`, `parser.cpp:43–72`. -/
def helperPostResponsePayloadResponse (s : Captured) (key : String) (value : Value) :
    Proc τ Exception (Captured × Bool) :=
  if hash.is key "type" then
    match decoders.responseType value with
    | .undefinedInternal => pure (s, s.result)
    | .unknownInternal => unknownInternal allowUnknownEventTypes s
    | .info | .action | .error => pure (s, s.result)
    | .order => dispatchHelper decoders message .actionOrder s
    | .cancel => dispatchHelper decoders message .actionCancel s
  else pure (s, s.result)

/-- `helper_post_response_payload`, `parser.cpp:74–120`. The status carries between callbacks. -/
def helperPostResponsePayload (s : Captured) (key : String) (value : Value) :
    Proc τ Exception (Captured × Bool) :=
  if hash.is key "type" then
    match decoders.payloadType value with
    | .undefinedInternal => pure (s, s.result)
    | .unknownInternal => unknownInternal allowUnknownEventTypes s
    | .spotMeta => dispatchHelper decoders message .spotMeta s
    | .action => pure (s, s.result)
  else if hash.is key "status" then pure ({ s with status := decoders.status value }, s.result)
  else if hash.is key "response" then
    match s.status with
    | .undefinedInternal => pure (s, s.result)
    | .unknownInternal => unknownInternal allowUnknownEventTypes s
    | .ok => do
      let members ← getObject value
      let s ← CoreJson.dispatch
        (helperPostResponsePayloadResponse hash decoders allowUnknownEventTypes message) s members
      pure (s, true)
    | .err => dispatchHelper decoders message .actionError s
  else pure (s, s.result)

/-- `helper_post_response`, `parser.cpp:121–131`. -/
def helperPostResponse (s : Captured) (key : String) (value : Value) :
    Proc τ Exception (Captured × Bool) :=
  if hash.is key "payload" then do
    let members ← getObject value
    let s ← CoreJson.dispatch
      (helperPostResponsePayload hash decoders allowUnknownEventTypes message) s members
    pure (s, s.result)
  else pure (s, s.result)

/-- `helper_post`, `parser.cpp:132–141`. -/
def helperPost (s : Captured) (key : String) (value : Value) :
    Proc τ Exception (Captured × Bool) :=
  if hash.is key "response" then do
    let members ← getObject value
    let s ← CoreJson.dispatch
      (helperPostResponse hash decoders allowUnknownEventTypes message) s members
    pure (s, true)
  else pure (s, s.result)

/-- `helper`, `parser.cpp:143–207`. -/
def helper (s : Captured) (key : String) (value : Value) : Proc τ Exception (Captured × Bool) :=
  if hash.is key "channel" then
    let channel := decoders.channel value
    let s := { s with channel }
    match channel with
    | .undefinedInternal => pure (s, s.result)
    | .unknownInternal => unknownInternal allowUnknownEventTypes s
    | .pong => dispatchHelper decoders message .pong s
    | .error => dispatchHelper decoders message .error s
    | .post => pure (s, s.result)
    | .subscriptionResponse => dispatchHelper decoders message .subscriptionResponse s
    | .bbo => dispatchHelper decoders message .bbo s
    | .l2Book => dispatchHelper decoders message .l2Book s
    | .trades => dispatchHelper decoders message .trades s
    | .activeAssetCtx => dispatchHelper decoders message .activeAssetCtx s
    | .user => dispatchHelper decoders message .user s
    | .userFundings => dispatchHelper decoders message .userFundings s
    | .userFills => dispatchHelper decoders message .userFills s
    | .orderUpdates => dispatchHelper decoders message .orderUpdates s
    | .notification => dispatchHelper decoders message .notification s
  else if hash.is key "data" then
    if s.channel = .post then do
      let members ← getObject value
      let s ← CoreJson.dispatch (helperPost hash decoders allowUnknownEventTypes message) s members
      pure (s, s.result)
    else pure (s, s.result)
  else pure (s, s.result)

/-- `Parser::dispatch`, `parser.cpp:40–213`. The text of the failure is followed by the
message. -/
def dispatch : Proc τ Exception Bool := do
  let members ← getObject message
  let s ← CoreJson.dispatch (helper hash decoders allowUnknownEventTypes message) {} members
  if s.result || allowUnknownEventTypes then pure s.result else Proc.fatal "Unexpected"

end

/-! ## What a message holds -/

/-- What a visit has read: the type of the message, once a member has told it. -/
structure Reading where
  found : Option MessageType := none
  status : Status := .undefinedInternal
  channel : Channel := .undefinedInternal
  deriving DecidableEq, Repr

/-- The message that a channel has at its top level. -/
def messageOf : Channel → Option MessageType
  | .undefinedInternal | .unknownInternal | .post => none
  | .pong => some .pong
  | .error => some .error
  | .subscriptionResponse => some .subscriptionResponse
  | .bbo => some .bbo
  | .l2Book => some .l2Book
  | .trades => some .trades
  | .activeAssetCtx => some .activeAssetCtx
  | .user => some .user
  | .userFundings => some .userFundings
  | .userFills => some .userFills
  | .orderUpdates => some .orderUpdates
  | .notification => some .notification

/-- The members of an object; another value has none. -/
def membersOf : Value → List (String × Value)
  | .object members => members
  | _ => []

/-- A value is an object whose members meet a condition. -/
def IsObjectWith (P : List (String × Value) → Prop) : Value → Prop
  | .object members => P members
  | _ => False

private theorem isObjectWith_congr {P Q : List (String × Value) → Prop}
    (h : ∀ members, P members ↔ Q members) (value : Value) :
    IsObjectWith P value ↔ IsObjectWith Q value := by
  cases value with
  | object members => exact h members
  | _ => exact Iff.rfl

section

variable {τ : Type} (hash : KeyHash) (decoders : Decoders τ)

/-- A member of the response of a payload with status ok. -/
def readActionResponse (t : Reading) (key : String) (value : Value) : Reading × Bool :=
  if hash.is key "type" then
    match decoders.responseType value with
    | .order => ({ t with found := some .actionOrder }, true)
    | .cancel => ({ t with found := some .actionCancel }, true)
    | _ => (t, false)
  else (t, false)

/-- A member of the payload. -/
def readPayload (t : Reading) (key : String) (value : Value) : Reading × Bool :=
  if hash.is key "type" then
    if decoders.payloadType value = .spotMeta then ({ t with found := some .spotMeta }, true)
    else (t, false)
  else if hash.is key "status" then ({ t with status := decoders.status value }, false)
  else if hash.is key "response" then
    match t.status with
    | .ok => (visit (readActionResponse hash decoders) t (membersOf value), true)
    | .err => ({ t with found := some .actionError }, true)
    | _ => (t, false)
  else (t, false)

/-- A member of the response. -/
def readResponse (t : Reading) (key : String) (value : Value) : Reading × Bool :=
  if hash.is key "payload" then
    let t := visit (readPayload hash decoders) t (membersOf value)
    (t, t.found.isSome)
  else (t, false)

/-- A member of the data. -/
def readData (t : Reading) (key : String) (value : Value) : Reading × Bool :=
  if hash.is key "response" then
    (visit (readResponse hash decoders) t (membersOf value), true)
  else (t, false)

/-- A member of the message. -/
def readMessage (t : Reading) (key : String) (value : Value) : Reading × Bool :=
  if hash.is key "channel" then
    let channel := decoders.channel value
    match messageOf channel with
    | some type => ({ t with found := some type, channel }, true)
    | none => ({ t with channel }, false)
  else if hash.is key "data" ∧ t.channel = .post then
    let t := visit (readData hash decoders) t (membersOf value)
    (t, t.found.isSome)
  else (t, false)

/-- In a payload with status ok the response is an object. -/
def PayloadTyped (t : Reading) (key : String) (value : Value) : Prop :=
  hash.is key "response" = true → t.status = .ok → IsObjectWith (fun _ ↦ True) value

/-- The payload of a response is an object with such members. -/
def ResponseTyped (t : Reading) (key : String) (value : Value) : Prop :=
  hash.is key "payload" = true →
    IsObjectWith (AlongVisit (readPayload hash decoders) (PayloadTyped hash) t) value

/-- The response of the data is an object with such members. -/
def DataTyped (t : Reading) (key : String) (value : Value) : Prop :=
  hash.is key "response" = true →
    IsObjectWith (AlongVisit (readResponse hash decoders) (ResponseTyped hash decoders) t) value

/-- The data of a post is an object with such members. -/
def MessageTyped (t : Reading) (key : String) (value : Value) : Prop :=
  hash.is key "data" = true → t.channel = .post →
    IsObjectWith (AlongVisit (readData hash decoders) (DataTyped hash decoders) t) value

/-- The condition on a message: up to the member that tells its type, the data of a post, its
response, the payload of that and its response after status ok are objects. -/
def Typed (members : List (String × Value)) : Prop :=
  AlongVisit (readMessage hash decoders) (MessageTyped hash decoders) {} members

end

/-! ## The visit -/

/-- The captured variables after what has been read. -/
def Reading.captured (t : Reading) : Captured := ⟨t.found.isSome, t.status, t.channel⟩

section

variable {τ : Type} (hash : KeyHash) (decoders : Decoders τ) (allowUnknownEventTypes : Bool)
  (message : Value)

/-- The messages that the handler has been called with. -/
def handled (t : Reading) : List τ := (t.found.map (decoders.message · message)).toList

variable {decoders message}

private theorem handled_eq_nil {t : Reading} :
    handled decoders message t = [] ↔ t.found = none := by
  unfold handled
  cases t.found <;> simp

private theorem length_handled (t : Reading) :
    (handled decoders message t).length = if t.captured.result then 1 else 0 := by
  unfold handled Reading.captured
  cases t.found <;> rfl

/-- A helper follows what is read from its members. -/
abbrev Reads (decoders : Decoders τ) (message : Value)
    (helper : Captured → String → Value → Proc τ Exception (Captured × Bool))
    (read : Reading → String → Value → Reading × Bool) (P : Reading → String → Value → Prop) :
    Prop :=
  Follows helper read P Reading.captured (handled decoders message)

section

variable {helper : Captured → String → Value → Proc τ Exception (Captured × Bool)}
  {read : Reading → String → Value → Reading × Bool} {P : Reading → String → Value → Prop}

/-- An object is visited as it is read. -/
theorem Reads.object (h : Reads decoders message helper read P) (stop : Captured → Bool)
    {t : Reading} (ht : t.found = none) {value : Value}
    (htyped : IsObjectWith (AlongVisit read P t) value) :
    (do
      let members ← getObject value
      let s ← CoreJson.dispatch helper t.captured members
      pure (s, stop s)) =
      ⟨handled decoders message (visit read t (membersOf value)),
        .ok ((visit read t (membersOf value)).captured,
          stop (visit read t (membersOf value)).captured)⟩ := by
  cases value with
  | object members =>
    rw [getObject, Proc.pure_bind, h.dispatch_of_along (handled_eq_nil.mpr ht) htyped]
    exact Proc.ext (List.append_nil _) rfl
  | _ => cases htyped

/-- Another value, and an object whose visit fails, make the callback fail. -/
theorem Reads.not_object (h : Reads decoders message helper read P) (stop : Captured → Bool)
    {t : Reading} (ht : t.found = none) {value : Value}
    (htyped : ¬ IsObjectWith (AlongVisit read P t) value) :
    ∃ failure, (do
      let members ← getObject value
      let s ← CoreJson.dispatch helper t.captured members
      pure (s, stop s)) = ⟨[], .error failure⟩ := by
  cases value with
  | object members =>
    obtain ⟨failure, hfailure⟩ := h.dispatch_of_not_along (handled_eq_nil.mpr ht) htyped
    rw [getObject, Proc.pure_bind, hfailure]
    exact ⟨failure, rfl⟩
  | _ => exact ⟨.thrown (.std badVariantAccess), rfl⟩

end

private theorem reads_helperPostResponsePayloadResponse :
    Reads decoders message
      (helperPostResponsePayloadResponse hash decoders allowUnknownEventTypes message)
      (readActionResponse hash decoders) fun _ _ _ ↦ True where
  ok := by
    rintro ⟨found, status, channel⟩ key value ht -
    obtain rfl : found = none := handled_eq_nil.mp ht
    unfold helperPostResponsePayloadResponse readActionResponse unknownInternal
    split
    · cases decoders.responseType value with
      | unknownInternal => cases allowUnknownEventTypes <;> rfl
      | _ => rfl
    · rfl
  error := fun _ _ _ _ h ↦ absurd trivial h
  continued := by
    intro t key value ht
    unfold readActionResponse
    split
    · cases decoders.responseType value with
      | order => exact nofun
      | cancel => exact nofun
      | _ => exact fun _ ↦ ht
    · exact fun _ ↦ ht

/-- The response of a payload with status ok need only be an object. -/
theorem isObjectWith_alongVisit (t : Reading) (value : Value) :
    IsObjectWith (AlongVisit (readActionResponse hash decoders) (fun _ _ _ ↦ True) t) value ↔
      IsObjectWith (fun _ ↦ True) value := by
  apply isObjectWith_congr
  exact fun members ↦ iff_of_true (alongVisit_of_forall _ (fun _ _ _ ↦ trivial) t members) trivial

private theorem reads_helperPostResponsePayload :
    Reads decoders message (helperPostResponsePayload hash decoders allowUnknownEventTypes message)
      (readPayload hash decoders) (PayloadTyped hash) where
  ok := by
    rintro ⟨found, status, channel⟩ key value ht htyped
    obtain rfl : found = none := handled_eq_nil.mp ht
    unfold helperPostResponsePayload readPayload unknownInternal
    split
    · cases decoders.payloadType value with
      | unknownInternal => cases allowUnknownEventTypes <;> rfl
      | _ => rfl
    · split
      · rfl
      · split
        · next hresponse =>
          cases status with
          | unknownInternal => cases allowUnknownEventTypes <;> rfl
          | ok =>
            exact (reads_helperPostResponsePayloadResponse hash allowUnknownEventTypes).object
              (fun _ ↦ true) rfl ((isObjectWith_alongVisit hash _ value).mpr (htyped hresponse rfl))
          | _ => rfl
        · rfl
  error := by
    rintro ⟨found, status, channel⟩ key value ht htyped
    obtain rfl : found = none := handled_eq_nil.mp ht
    obtain ⟨hresponse, hrest⟩ := Classical.not_imp.mp htyped
    obtain ⟨rfl, hvalue⟩ := Classical.not_imp.mp hrest
    obtain ⟨htype, hstatus⟩ := KeyHash.is_of_response hresponse
    simp only [helperPostResponsePayload, htype, hstatus, hresponse, Bool.false_eq_true, if_false,
      if_true]
    exact (reads_helperPostResponsePayloadResponse hash allowUnknownEventTypes).not_object
      (fun _ ↦ true) rfl (mt (isObjectWith_alongVisit hash _ value).mp hvalue)
  continued := by
    intro t key value ht
    unfold readPayload
    split
    · split
      · exact nofun
      · exact fun _ ↦ ht
    · split
      · exact fun _ ↦ ht
      · split
        · cases t.status with
          | ok => exact nofun
          | err => exact nofun
          | _ => exact fun _ ↦ ht
        · exact fun _ ↦ ht

private theorem reads_helperPostResponse :
    Reads decoders message (helperPostResponse hash decoders allowUnknownEventTypes message)
      (readResponse hash decoders) (ResponseTyped hash decoders) where
  ok := by
    rintro ⟨found, status, channel⟩ key value ht htyped
    obtain rfl : found = none := handled_eq_nil.mp ht
    unfold helperPostResponse readResponse
    split
    · next hpayload =>
      exact (reads_helperPostResponsePayload hash allowUnknownEventTypes).object Captured.result rfl
        (htyped hpayload)
    · rfl
  error := by
    intro t key value ht htyped
    obtain ⟨hpayload, hvalue⟩ := Classical.not_imp.mp htyped
    simp only [helperPostResponse, hpayload, if_true]
    exact (reads_helperPostResponsePayload hash allowUnknownEventTypes).not_object Captured.result
      (handled_eq_nil.mp ht) hvalue
  continued := by
    intro t key value ht
    unfold readResponse
    split
    · intro hstop
      exact handled_eq_nil.mpr (Option.isNone_iff_eq_none.mp (Option.isSome_eq_false_iff.mp hstop))
    · exact fun _ ↦ ht

private theorem reads_helperPost :
    Reads decoders message (helperPost hash decoders allowUnknownEventTypes message)
      (readData hash decoders) (DataTyped hash decoders) where
  ok := by
    rintro ⟨found, status, channel⟩ key value ht htyped
    obtain rfl : found = none := handled_eq_nil.mp ht
    unfold helperPost readData
    split
    · next hresponse =>
      exact (reads_helperPostResponse hash allowUnknownEventTypes).object (fun _ ↦ true) rfl
        (htyped hresponse)
    · rfl
  error := by
    intro t key value ht htyped
    obtain ⟨hresponse, hvalue⟩ := Classical.not_imp.mp htyped
    simp only [helperPost, hresponse, if_true]
    exact (reads_helperPostResponse hash allowUnknownEventTypes).not_object (fun _ ↦ true)
      (handled_eq_nil.mp ht) hvalue
  continued := by
    intro t key value ht
    unfold readData
    split
    · exact nofun
    · exact fun _ ↦ ht

/-- The helper reads the message, if its members have the types of their labels. -/
theorem reads_helper :
    Reads decoders message (helper hash decoders allowUnknownEventTypes message)
      (readMessage hash decoders) (MessageTyped hash decoders) where
  ok := by
    rintro ⟨found, status, channel⟩ key value ht htyped
    obtain rfl : found = none := handled_eq_nil.mp ht
    unfold helper readMessage unknownInternal
    split
    · cases decoders.channel value with
      | unknownInternal => cases allowUnknownEventTypes <;> rfl
      | _ => rfl
    · by_cases hdata : hash.is key "data" = true
      · by_cases hpost : channel = .post
        · subst hpost
          simp only [hdata, if_true, and_self]
          exact (reads_helperPost hash allowUnknownEventTypes).object Captured.result rfl
            (htyped hdata rfl)
        · simp only [hdata, hpost, if_true, if_false, and_false, Reading.captured]
          rfl
      · rw [if_neg hdata, if_neg fun h ↦ hdata h.1]
        rfl
  error := by
    rintro ⟨found, status, channel⟩ key value ht htyped
    obtain ⟨hdata, hrest⟩ := Classical.not_imp.mp htyped
    obtain ⟨rfl, hvalue⟩ := Classical.not_imp.mp hrest
    simp only [helper, KeyHash.is_of_data hdata, hdata, Bool.false_eq_true, if_false, if_true]
    exact (reads_helperPost hash allowUnknownEventTypes).not_object Captured.result
      (handled_eq_nil.mp ht) hvalue
  continued := by
    intro t key value ht
    unfold readMessage
    split
    · cases decoders.channel value <;> first | exact fun _ ↦ ht | exact nofun
    · split
      · intro hstop
        apply handled_eq_nil.mpr
        exact Option.isNone_iff_eq_none.mp (Option.isSome_eq_false_iff.mp hstop)
      · exact fun _ ↦ ht

/-- A dispatch that returns true after one call of the handler, or false after none. -/
def Total (x : Proc τ Exception Bool) : Prop :=
  ∃ result, x.result = .ok result ∧ x.events.length = if result then 1 else 0

/-- With unknown types allowed, a message is dispatched exactly when what the visit takes for
an object is one. -/
theorem total_dispatch_iff (hash : KeyHash) (decoders : Decoders τ)
    (members : List (String × Value)) :
    Total (dispatch hash decoders true (.object members)) ↔ Typed hash decoders members := by
  have hreads : Reads decoders (.object members) _ _ _ := reads_helper hash true
  have hdispatch : dispatch hash decoders true (.object members) =
      CoreJson.dispatch (helper hash decoders true (.object members)) (Reading.captured {})
        members >>= fun s ↦ pure s.result := by
    simp [dispatch, getObject, Reading.captured]
  rw [hdispatch]
  by_cases htyped : Typed hash decoders members
  · rw [hreads.dispatch_of_along rfl htyped]
    refine iff_of_true ⟨_, rfl, ?_⟩ htyped
    show (handled decoders (.object members) _ ++ []).length = _
    rw [List.append_nil, length_handled]
  · obtain ⟨failure, hfailure⟩ := hreads.dispatch_of_not_along rfl htyped
    rw [hfailure]
    exact iff_of_false nofun htyped

end

/-! ## A reply with an error -/

/-- Decoders that read the enumerations by their names and keep the type of a message. -/
def byName : Decoders MessageType where
  channel
    | .string "pong" => .pong
    | .string "error" => .error
    | .string "post" => .post
    | .string "subscriptionResponse" => .subscriptionResponse
    | .string "bbo" => .bbo
    | .string "l2Book" => .l2Book
    | .string "trades" => .trades
    | .string "activeAssetCtx" => .activeAssetCtx
    | .string "user" => .user
    | .string "userFundings" => .userFundings
    | .string "userFills" => .userFills
    | .string "orderUpdates" => .orderUpdates
    | .string "notification" => .notification
    | .string _ => .unknownInternal
    | _ => .undefinedInternal
  payloadType
    | .string "spotMeta" => .spotMeta
    | .string "action" => .action
    | .string _ => .unknownInternal
    | _ => .undefinedInternal
  responseType
    | .string "info" => .info
    | .string "action" => .action
    | .string "error" => .error
    | .string "order" => .order
    | .string "cancel" => .cancel
    | .string _ => .unknownInternal
    | _ => .undefinedInternal
  status
    | .string "ok" => .ok
    | .string "err" => .err
    | .string _ => .unknownInternal
    | _ => .undefinedInternal
  message type _ := type

/-- A reply to a post, with a given type and payload of its response. -/
def postReply (type : String) (payload : Value) : List (String × Value) :=
  [("channel", .string "post"),
    ("data", .object
      [("id", .integer 1),
        ("response", .object [("type", .string type), ("payload", payload)])])]

/-- A reply whose payload is a text is not dispatched: the conversion to an object throws. -/
theorem dispatch_text_not_total :
    ¬ ∀ (τ : Type) (hash : KeyHash) (decoders : Decoders τ) (members : List (String × Value)),
      Total (dispatch hash decoders true (.object members)) := by
  intro h
  obtain ⟨result, hresult, -⟩ :=
    h MessageType .fnv1a byName (postReply "error" (.string "Error parsing JSON"))
  have hthrows : (dispatch .fnv1a byName true
      (.object (postReply "error" (.string "Error parsing JSON")))).result.isOk = false := by
    decide +kernel
  rw [hresult] at hthrows
  cases hthrows

end Parser

end Hyperliquid.Protocol.Json
