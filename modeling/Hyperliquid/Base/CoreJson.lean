import Hyperliquid.Base.Procedure

/-!
# Visited JSON

`core::json` of the trading library: the kinds of a parsed value, and an object that calls
back for each member in order until the callback returns true. The variables that a
callback captures are passed along as a state.
-/

namespace Hyperliquid.Base.CoreJson

/-- A parsed value; a double is kept as its bits. -/
inductive Value where
  | null
  | boolean (value : Bool)
  | integer (value : Int64)
  | double (bits : UInt64)
  | string (text : String)
  | array (items : List Value)
  | object (members : List (String × Value))
  deriving Repr

variable {σ ω ε : Type}

/-- `core::json::Object::dispatch`. -/
def dispatch (callback : σ → String → Value → Proc ω ε (σ × Bool)) :
    σ → List (String × Value) → Proc ω ε σ
  | s, [] => pure s
  | s, (key, value) :: members => do
    let (s, stop) ← callback s key value
    if stop then pure s else dispatch callback s members

private theorem dispatch_nil (callback : σ → String → Value → Proc ω ε (σ × Bool)) (s : σ) :
    dispatch callback s [] = pure s := rfl

/-- A callback that returns false goes on to the next member. -/
theorem dispatch_of_continue {callback : σ → String → Value → Proc ω ε (σ × Bool)} {s s' : σ}
    {key : String} {value : Value} {members : List (String × Value)}
    (h : callback s key value = pure (s', false)) :
    dispatch callback s ((key, value) :: members) = dispatch callback s' members := by
  rw [dispatch, h]
  rfl

/-- A member whose callback always returns true is the last. -/
theorem dispatch_of_stop {callback : σ → String → Value → Proc ω ε (σ × Bool)} {s : σ}
    {key : String} {value : Value} {members : List (String × Value)} {x : Proc ω ε σ}
    (h : callback s key value = x >>= fun s' ↦ pure (s', true)) :
    dispatch callback s ((key, value) :: members) = x := by
  rw [dispatch, h, Proc.bind_assoc]
  exact Proc.bind_pure x

/-- After the last member it does not matter what the callback returns. -/
theorem dispatch_of_last {callback : σ → String → Value → Proc ω ε (σ × Bool)} {s : σ}
    {key : String} {value : Value} {x : Proc ω ε σ} {stop : σ → Bool}
    (h : callback s key value = x >>= fun s' ↦ pure (s', stop s')) :
    dispatch callback s [(key, value)] = x := by
  have hpure : (fun s' ↦ if stop s' then pure s' else dispatch callback s' []) =
      (pure : σ → Proc ω ε σ) := by
    ext1 s'
    rw [dispatch_nil, ite_self]
  rw [dispatch, h, Proc.bind_assoc]
  exact (congrArg (x >>= ·) hpure).trans (Proc.bind_pure x)

section

variable {τ : Type}

/-- A visit by a callback that always returns. -/
def visit (callback : τ → String → Value → τ × Bool) : τ → List (String × Value) → τ
  | t, [] => t
  | t, (key, value) :: members =>
    if (callback t key value).2 then (callback t key value).1
    else visit callback (callback t key value).1 members

/-- A condition on each member that such a callback visits. -/
def AlongVisit (callback : τ → String → Value → τ × Bool) (P : τ → String → Value → Prop) :
    τ → List (String × Value) → Prop
  | _, [] => True
  | t, (key, value) :: members =>
    P t key value ∧ ((callback t key value).2 = false →
      AlongVisit callback P (callback t key value).1 members)

/-- What holds of every member holds along a visit. -/
theorem alongVisit_of_forall (callback : τ → String → Value → τ × Bool)
    {P : τ → String → Value → Prop} (h : ∀ t key value, P t key value) (t : τ)
    (members : List (String × Value)) : AlongVisit callback P t members := by
  induction members generalizing t with
  | nil => trivial
  | cons member members ih => exact ⟨h _ _ _, fun _ ↦ ih _⟩

/-- A callback that emits does what one that always returns does, where a condition holds, and
fails elsewhere. It is the last to be called once something has been emitted. -/
structure Follows (callback : σ → String → Value → Proc ω ε (σ × Bool))
    (reading : τ → String → Value → τ × Bool) (P : τ → String → Value → Prop) (view : τ → σ)
    (log : τ → List ω) : Prop where
  ok : ∀ t key value, log t = [] → P t key value →
    callback (view t) key value =
      ⟨log (reading t key value).1, .ok (view (reading t key value).1, (reading t key value).2)⟩
  error : ∀ t key value, log t = [] → ¬ P t key value →
    ∃ failure, callback (view t) key value = ⟨[], .error failure⟩
  continued : ∀ t key value, log t = [] → (reading t key value).2 = false →
    log (reading t key value).1 = []

namespace Follows

variable {callback : σ → String → Value → Proc ω ε (σ × Bool)}
  {reading : τ → String → Value → τ × Bool} {P : τ → String → Value → Prop} {view : τ → σ}
  {log : τ → List ω}

/-- A visit along which the condition holds ends where its reading does. -/
theorem dispatch_of_along (h : Follows callback reading P view log) {t : τ} (hlog : log t = [])
    {members : List (String × Value)} (halong : AlongVisit reading P t members) :
    dispatch callback (view t) members =
      ⟨log (visit reading t members), .ok (view (visit reading t members))⟩ := by
  induction members generalizing t with
  | nil =>
    rw [dispatch_nil, visit, hlog]
    rfl
  | cons member members ih =>
    obtain ⟨key, value⟩ := member
    rw [dispatch, h.ok t key value hlog halong.1, visit]
    cases hstop : (reading t key value).2 with
    | true => exact Proc.ext (List.append_nil _) rfl
    | false =>
      have hlog' := h.continued t key value hlog hstop
      rw [hlog']
      exact ih hlog' (halong.2 hstop)

/-- Any other visit fails before it logs. -/
theorem dispatch_of_not_along (h : Follows callback reading P view log) {t : τ}
    (hlog : log t = []) {members : List (String × Value)}
    (halong : ¬ AlongVisit reading P t members) :
    ∃ failure, dispatch callback (view t) members = ⟨[], .error failure⟩ := by
  induction members generalizing t with
  | nil => exact absurd trivial halong
  | cons member members ih =>
    obtain ⟨key, value⟩ := member
    by_cases hP : P t key value
    · rw [dispatch, h.ok t key value hlog hP]
      cases hstop : (reading t key value).2 with
      | true =>
        refine absurd ⟨hP, fun hcontinues ↦ ?_⟩ halong
        rw [hstop] at hcontinues
        cases hcontinues
      | false =>
        have hlog' := h.continued t key value hlog hstop
        rw [hlog']
        exact ih hlog' fun hmembers ↦ halong ⟨hP, fun _ ↦ hmembers⟩
    · obtain ⟨failure, hfailure⟩ := h.error t key value hlog hP
      rw [dispatch, hfailure]
      exact ⟨failure, rfl⟩

end Follows

end

/-- What `std::get` throws for a value of another kind. -/
def badVariantAccess : String := "std::get: wrong index for variant"

/-- `utils::hash::FNV::compute`, by which keys are compared. The labels of one switch
have different hashes, or the switch would not compile. -/
structure KeyHash where
  compute : String → UInt64
  payload_labels : (["type", "status", "response"].map compute).Nodup
  response_labels : (["type", "data"].map compute).Nodup
  message_labels : (["channel", "data"].map compute).Nodup

namespace KeyHash

/-- A key is taken for a label. -/
def is (hash : KeyHash) (key label : String) : Bool := hash.compute key == hash.compute label

/-- A key has its own hash. -/
@[simp] theorem is_self (hash : KeyHash) (key : String) : hash.is key key = true := by
  simp [is]

/-- A key is taken for one label at most, if their hashes differ. -/
theorem is_eq_false {hash : KeyHash} {key label other : String}
    (h : hash.compute label ≠ hash.compute other) (hkey : hash.is key label = true) :
    hash.is key other = false := by
  rw [is, beq_iff_eq] at hkey
  rw [is, beq_eq_false_iff_ne, hkey]
  exact h

/-- The keys of a reply are told apart. -/
@[simp] theorem is_response_status (hash : KeyHash) : hash.is "response" "status" = false := by
  have h := hash.payload_labels
  simp only [List.map_cons, List.map_nil, List.nodup_cons, List.mem_cons] at h
  simp only [is, beq_eq_false_iff_ne]
  exact fun heq ↦ h.2.1 (Or.inl heq.symm)

/-- The keys of a frame are told apart. -/
@[simp] theorem is_data_type (hash : KeyHash) : hash.is "data" "type" = false := by
  have h := hash.response_labels
  simp only [List.map_cons, List.map_nil, List.nodup_cons, List.mem_cons] at h
  simp only [is, beq_eq_false_iff_ne]
  exact fun heq ↦ h.1 (Or.inl heq.symm)

/-- A key with the hash of `data` does not have that of `type`. -/
theorem is_type_of_data {hash : KeyHash} {key : String} (h : hash.is key "data" = true) :
    hash.is key "type" = false := by
  have hlabels := hash.response_labels
  simp only [List.map_cons, List.map_nil, List.nodup_cons, List.mem_cons, List.not_mem_nil,
    or_false] at hlabels
  exact is_eq_false (Ne.symm hlabels.1) h

/-- A key with the hash of `response` has none of the others. -/
theorem is_of_response {hash : KeyHash} {key : String} (h : hash.is key "response" = true) :
    hash.is key "type" = false ∧ hash.is key "status" = false := by
  have hlabels := hash.payload_labels
  simp only [List.map_cons, List.map_nil, List.nodup_cons, List.mem_cons, List.not_mem_nil,
    or_false, not_or] at hlabels
  exact ⟨is_eq_false (Ne.symm hlabels.1.2) h, is_eq_false (Ne.symm hlabels.2.1) h⟩

/-- A key with the hash of `data` does not have that of `channel`. -/
theorem is_of_data {hash : KeyHash} {key : String} (h : hash.is key "data" = true) :
    hash.is key "channel" = false := by
  have hlabels := hash.message_labels
  simp only [List.map_cons, List.map_nil, List.nodup_cons, List.mem_cons, List.not_mem_nil,
    or_false] at hlabels
  exact is_eq_false (Ne.symm hlabels.1) h

/-- FNV-1a with 64 bits. -/
def fnv1a : KeyHash where
  compute key :=
    key.toUTF8.data.foldl (fun hash byte ↦ (hash ^^^ byte.toUInt64) * 0x100000001b3)
      0xcbf29ce484222325
  payload_labels := by decide +kernel
  response_labels := by decide +kernel
  message_labels := by decide +kernel

end KeyHash

end Hyperliquid.Base.CoreJson
