import Hyperliquid.Protocol.Parser

/-!
# What a message tells a stream

The streams hand the messages that they receive to the parser in the same way,
`src/roq/hyperliquid/gateway/market_data.cpp:512–524`,
`src/roq/hyperliquid/gateway/drop_copy.cpp:569–581` and
`src/roq/hyperliquid/gateway/web_socket.cpp:579–591`: no exception leaves them, so that every
failure ends the process. A message calls one handler, or none, or fails.
-/

namespace Hyperliquid.Base.CoreJson

variable {τ : Type}

/-- A condition along a visit is tested member by member. -/
instance decidableAlongVisit (callback : τ → String → Value → τ × Bool)
    (P : τ → String → Value → Prop) [∀ t key value, Decidable (P t key value)] :
    ∀ t members, Decidable (AlongVisit callback P t members)
  | _, [] => isTrue trivial
  | t, (key, value) :: members =>
    have := decidableAlongVisit callback P (callback t key value).1 members
    inferInstanceAs (Decidable (P t key value ∧ ((callback t key value).2 = false →
      AlongVisit callback P (callback t key value).1 members)))

end Hyperliquid.Base.CoreJson

namespace Hyperliquid.Protocol.Json.Parser

open Hyperliquid.Base Hyperliquid.Base.CoreJson Hyperliquid.Web

instance decidableIsObjectWith (P : List (String × Value) → Prop) [DecidablePred P] :
    ∀ value, Decidable (IsObjectWith P value)
  | .object members => inferInstanceAs (Decidable (P members))
  | .null | .boolean _ | .integer _ | .double _ | .string _ | .array _ => isFalse nofun

section

variable {τ : Type} (hash : KeyHash) (decoders : Decoders τ) (t : Reading) (key : String)
  (value : Value)

instance : Decidable (PayloadTyped hash t key value) :=
  inferInstanceAs (Decidable (_ → _ → IsObjectWith (fun _ ↦ True) value))

instance : Decidable (ResponseTyped hash decoders t key value) :=
  inferInstanceAs (Decidable (_ → IsObjectWith _ value))

instance : Decidable (DataTyped hash decoders t key value) :=
  inferInstanceAs (Decidable (_ → IsObjectWith _ value))

instance : Decidable (MessageTyped hash decoders t key value) :=
  inferInstanceAs (Decidable (_ → _ → IsObjectWith _ value))

instance (members : List (String × Value)) : Decidable (Typed hash decoders members) :=
  inferInstanceAs (Decidable (AlongVisit _ _ _ members))

end

/-- What a message tells: the visit fails, or it finds no handler, or it calls one. -/
inductive Told (τ : Type) where
  | fails
  | nothing
  | message (message : τ)

section

variable {τ σ : Type} (hash : KeyHash) (decoders : Decoders τ) (allowUnknownEventTypes : Bool)

def told : Value → Told τ
  | .object members =>
    if Typed hash decoders members then
      match (visit (readMessage hash decoders) {} members).found with
      | none => .nothing
      | some type => .message (decoders.message type (.object members))
    else .fails
  | .null | .boolean _ | .integer _ | .double _ | .string _ | .array _ => .fails

/-- `parse` of a stream: the handlers that the parser calls, and what it returns after them. -/
def parse (handler : τ → σ → Except (Failure Exception) σ) (message : Value) (state : σ) :
    Except (Failure Exception) σ := do
  let dispatched := dispatch hash decoders allowUnknownEventTypes message
  let state ← dispatched.events.foldlM (fun state message ↦ handler message state) state
  -- a message that was not dispatched is logged
  let _ ← dispatched.result
  pure state

variable {hash decoders allowUnknownEventTypes} {handler : τ → σ → Except (Failure Exception) σ}
  {message : Value}

/-- The parser after a visit that does not fail. -/
theorem dispatch_of_typed {members : List (String × Value)} (h : Typed hash decoders members) :
    dispatch hash decoders allowUnknownEventTypes (.object members) =
      ⟨handled decoders (.object members) (visit (readMessage hash decoders) {} members),
        if (visit (readMessage hash decoders) {} members).found.isSome || allowUnknownEventTypes
        then .ok (visit (readMessage hash decoders) {} members).found.isSome
        else .error (.fatal "Unexpected")⟩ := by
  have hreads : Reads decoders (.object members) _ _ _ := reads_helper hash allowUnknownEventTypes
  have hvisit := hreads.dispatch_of_along (t := {}) rfl h
  show (CoreJson.dispatch (helper hash decoders allowUnknownEventTypes (.object members))
    (Reading.captured {}) members >>= _) = _
  rw [hvisit]
  obtain ⟨found, status, channel⟩ := visit (readMessage hash decoders) {} members
  cases found <;> cases allowUnknownEventTypes <;> exact Proc.ext (List.append_nil _) rfl

/-- A message that is not an object, or whose visit fails. -/
theorem exists_dispatch_of_fails (h : told hash decoders message = .fails) :
    ∃ failure, dispatch hash decoders allowUnknownEventTypes message = ⟨[], .error failure⟩ := by
  cases message with
  | object members =>
    have htyped : ¬ Typed hash decoders members := by
      intro htyped
      rw [told, if_pos htyped] at h
      split at h <;> cases h
    have hreads : Reads decoders (.object members) _ _ _ :=
      reads_helper hash allowUnknownEventTypes
    obtain ⟨failure, hfailure⟩ := hreads.dispatch_of_not_along (t := {}) rfl htyped
    refine ⟨failure, ?_⟩
    show (CoreJson.dispatch (helper hash decoders allowUnknownEventTypes (.object members))
      (Reading.captured {}) members >>= _) = _
    rw [hfailure]
    rfl
  | _ => exact ⟨.thrown (.std badVariantAccess), rfl⟩

/-- A message whose visit does not fail is an object, and its visit finds what it tells. -/
theorem exists_found_of_told (h : told hash decoders message ≠ .fails) :
    ∃ members, message = .object members ∧ Typed hash decoders members ∧
      told hash decoders message =
        match (visit (readMessage hash decoders) {} members).found with
        | none => .nothing
        | some type => .message (decoders.message type message) := by
  cases message with
  | object members =>
    by_cases htyped : Typed hash decoders members
    · exact ⟨members, rfl, htyped, if_pos htyped⟩
    · exact absurd (if_neg htyped) h
  | _ => exact absurd rfl h

/-- What a stream does with a message that fails. -/
theorem parse_of_fails (h : told hash decoders message = .fails) (state : σ) :
    ∃ failure, parse hash decoders allowUnknownEventTypes handler message state =
      .error failure := by
  obtain ⟨failure, hfailure⟩ := exists_dispatch_of_fails h
  refine ⟨failure, ?_⟩
  rw [parse, hfailure]
  rfl

/-- What a stream does with a message that no handler is for: it is the end of the process, unless
unknown messages are allowed. -/
theorem parse_of_nothing (h : told hash decoders message = .nothing) (state : σ) :
    parse hash decoders allowUnknownEventTypes handler message state =
      if allowUnknownEventTypes then .ok state else .error (.fatal "Unexpected") := by
  have hne : told hash decoders message ≠ .fails := by rw [h]; exact nofun
  obtain ⟨members, rfl, htyped, htold⟩ := exists_found_of_told hne
  have hfound : (visit (readMessage hash decoders) {} members).found = none := by
    rw [h] at htold
    split at htold
    · assumption
    · cases htold
  rw [parse, dispatch_of_typed htyped, handled, hfound]
  cases allowUnknownEventTypes <;> rfl

/-- What a stream does with a message that a handler is for. -/
theorem parse_of_message {content : τ} (h : told hash decoders message = .message content)
    (state : σ) :
    parse hash decoders allowUnknownEventTypes handler message state = handler content state := by
  have hne : told hash decoders message ≠ .fails := by rw [h]; exact nofun
  obtain ⟨members, rfl, htyped, htold⟩ := exists_found_of_told hne
  rw [h] at htold
  split at htold
  · cases htold
  · next type hfound =>
    rw [parse, dispatch_of_typed htyped, handled, hfound, Told.message.inj htold]
    show ((handler _ state >>= pure) >>= fun state ↦ pure state) = _
    rw [bind_pure, bind_pure]

end

end Hyperliquid.Protocol.Json.Parser
