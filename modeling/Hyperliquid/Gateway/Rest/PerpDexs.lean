import Hyperliquid.Base.Procedure
import Hyperliquid.Gateway.Shared
import Mathlib.Data.List.Nodup
import Mathlib.Data.List.Sigma
import Mathlib.Tactic.Common

/-!
# The list of perpetual exchanges

The handler of a `perpDexs` reply, `src/roq/hyperliquid/gateway/rest.cpp:382–412`: each
item that the settings keep is appended to `shared_.dex` with the offset of its asset
ids, which follows from its position in the reply.
-/

namespace Hyperliquid.Gateway.Rest

open Hyperliquid.Base

/-- `protocol::json::GetPerpDexsAckItem`, with the field the handler reads. -/
structure GetPerpDexsAckItem where
  name : String
  deriving DecidableEq, Repr

/-- `OFFSET_DEX`, `rest.cpp:33`. -/
def offsetDex : UInt64 := 110000

/-- `static_cast<int32_t>(i * OFFSET_DEX)`, `rest.cpp:388`. -/
def assetIdOffset (i : Nat) : Int32 := (UInt64.ofNat i * offsetDex).toUInt32.toInt32

/-- The search for a known name, `rest.cpp:390–397`. Its `continue` goes on to the next
known entry: a match has no effect other than the check of the offset. The text of the
failure is followed by the item. -/
def checkKnown (item : GetPerpDexsAckItem) (offset : Int32) :
    List Dex → Except (Failure String) Unit
  | [] => .ok ()
  | item2 :: dex =>
    if item2.name = item.name then
      if item2.assetIdOffset ≠ offset then .error (.fatal "Unexpected")
      else checkKnown item offset dex
    else checkKnown item offset dex

/-- `discard`, `rest.cpp:398`. -/
def discard (settings : Settings) (item : GetPerpDexsAckItem) : Bool :=
  !item.name.isEmpty && !settings.dex.contains item.name

/-- The body of the loop over the items, each with its position, `rest.cpp:386–407`. -/
def onPerpDex (settings : Settings) (dex : List Dex) (entry : GetPerpDexsAckItem × Nat) :
    Except (Failure String) (List Dex) := do
  let offset := assetIdOffset entry.2
  checkKnown entry.1 offset dex
  if discard settings entry.1 then pure dex else pure (dex ++ [⟨entry.1.name, offset⟩])

/-- The handler of `GetPerpDexsAck`, `rest.cpp:382–412`, on `shared_.dex`. -/
def perpDexsAck (settings : Settings) (dex : List Dex) (reply : List GetPerpDexsAckItem) :
    Except (Failure String) (List Dex) :=
  reply.zipIdx.foldlM (onPerpDex settings) dex

/-- The handler over the replies of a session. -/
def perpDexsAcks (settings : Settings) (dex : List Dex)
    (replies : List (List GetPerpDexsAckItem)) : Except (Failure String) (List Dex) :=
  replies.foldlM (perpDexsAck settings) dex

/-- The items of a reply that the settings keep, with their positions in the reply. -/
def kept (settings : Settings) (reply : List GetPerpDexsAckItem) :
    List (GetPerpDexsAckItem × Nat) :=
  reply.zipIdx.filter fun entry ↦ !discard settings entry.1

/-- The entry of `shared_.dex` for a kept item. -/
def dexOf (entry : GetPerpDexsAckItem × Nat) : Dex := ⟨entry.1.name, assetIdOffset entry.2⟩

/-- The names of a reply. -/
def names (reply : List GetPerpDexsAckItem) : List String := reply.map GetPerpDexsAckItem.name

/-- The settings keep a name that is empty or configured. -/
def KeepsName (settings : Settings) (name : String) : Prop := name = "" ∨ name ∈ settings.dex

variable (settings : Settings)

private theorem discard_eq_false_iff (item : GetPerpDexsAckItem) :
    discard settings item = false ↔ KeepsName settings item.name := by
  simp only [discard, KeepsName, Bool.and_eq_false_iff, Bool.not_eq_false',
    String.isEmpty_iff, List.contains_iff_mem]

private theorem onPerpDex_eq_ok {dex dex' : List Dex} {entry : GetPerpDexsAckItem × Nat}
    (h : onPerpDex settings dex entry = .ok dex') :
    dex' = dex ++ (if discard settings entry.1 then [] else [dexOf entry]) := by
  obtain ⟨_, _, h⟩ := bind_eq_ok.mp h
  by_cases hdiscard : discard settings entry.1
  · rw [if_pos hdiscard] at h ⊢
    rw [← Except.ok.inj h, List.append_nil]
  · rw [if_neg hdiscard] at h ⊢
    exact (Except.ok.inj h).symm

private theorem foldlM_onPerpDex_eq_ok {dex dex' : List Dex}
    {entries : List (GetPerpDexsAckItem × Nat)}
    (h : entries.foldlM (onPerpDex settings) dex = .ok dex') :
    dex' = dex ++ (entries.filter fun entry ↦ !discard settings entry.1).map dexOf := by
  induction entries generalizing dex with
  | nil =>
    rw [List.foldlM_nil] at h
    rw [← Except.ok.inj h]
    simp
  | cons entry entries ih =>
    rw [List.foldlM_cons] at h
    obtain ⟨next, hentry, hentries⟩ := bind_eq_ok.mp h
    rw [ih hentries, onPerpDex_eq_ok settings hentry, List.append_assoc]
    congr 1
    by_cases hdiscard : discard settings entry.1 <;> simp [hdiscard]

/-- A reply that is handled appends its kept items, known or not. -/
theorem perpDexsAck_eq_ok {dex dex' : List Dex} {reply : List GetPerpDexsAckItem}
    (h : perpDexsAck settings dex reply = .ok dex') :
    dex' = dex ++ (kept settings reply).map dexOf :=
  foldlM_onPerpDex_eq_ok settings h

/-- After any replies the list has the kept items of all of them, in order. -/
theorem perpDexsAcks_eq_ok {dex dex' : List Dex} {replies : List (List GetPerpDexsAckItem)}
    (h : perpDexsAcks settings dex replies = .ok dex') :
    dex' = dex ++ (replies.flatMap (kept settings)).map dexOf := by
  unfold perpDexsAcks at h
  induction replies generalizing dex with
  | nil =>
    rw [List.foldlM_nil] at h
    rw [← Except.ok.inj h]
    simp
  | cons reply replies ih =>
    rw [List.foldlM_cons] at h
    obtain ⟨next, hreply, hreplies⟩ := bind_eq_ok.mp h
    rw [ih hreplies, perpDexsAck_eq_ok settings hreply]
    simp

/-- An item is kept with its position in the reply. -/
theorem mem_kept {reply : List GetPerpDexsAckItem} {entry : GetPerpDexsAckItem × Nat} :
    entry ∈ kept settings reply ↔
      reply[entry.2]? = some entry.1 ∧ KeepsName settings entry.1.name := by
  rw [kept, List.mem_filter, List.mem_zipIdx_iff_getElem?, Bool.not_eq_true',
    discard_eq_false_iff]

/-- The names that a reply adds are those of its names that the settings keep. -/
theorem mem_names_kept {reply : List GetPerpDexsAckItem} {name : String} :
    name ∈ ((kept settings reply).map dexOf).map Dex.name ↔
      name ∈ names reply ∧ KeepsName settings name := by
  simp only [List.mem_map, names]
  constructor
  · rintro ⟨_, ⟨entry, hentry, rfl⟩, rfl⟩
    have hkept := (mem_kept settings).mp hentry
    exact ⟨⟨entry.1, List.mem_of_getElem? hkept.1, rfl⟩, hkept.2⟩
  · rintro ⟨⟨item, hitem, rfl⟩, hname⟩
    obtain ⟨i, hi⟩ := List.mem_iff_getElem?.mp hitem
    exact ⟨dexOf (item, i), ⟨(item, i), (mem_kept settings).mpr ⟨hi, hname⟩, rfl⟩, rfl⟩

/-- The check passes exactly when no known entry of the name has another offset. -/
theorem checkKnown_eq_ok_iff {item : GetPerpDexsAckItem} {offset : Int32} {dex : List Dex} :
    checkKnown item offset dex = .ok () ↔
      ∀ item2 ∈ dex, item2.name = item.name → item2.assetIdOffset = offset := by
  induction dex with
  | nil => simp [checkKnown]
  | cons item2 dex ih =>
    rw [checkKnown, List.forall_mem_cons]
    by_cases hname : item2.name = item.name
    · by_cases hoffset : item2.assetIdOffset = offset
      · simp [hname, hoffset, ih]
      · simp [hname, hoffset]
    · simp [hname, ih]

/-- Entries of one name have one offset. -/
def SameOffsets (dex : List Dex) : Prop :=
  ∀ first ∈ dex, ∀ second ∈ dex, first.name = second.name →
    first.assetIdOffset = second.assetIdOffset

private theorem sameOffsets_onPerpDex {dex dex' : List Dex} {entry : GetPerpDexsAckItem × Nat}
    (hdex : SameOffsets dex) (h : onPerpDex settings dex entry = .ok dex') : SameOffsets dex' := by
  obtain ⟨_, hcheck, _⟩ := bind_eq_ok.mp h
  have hknown := checkKnown_eq_ok_iff.mp hcheck
  rw [onPerpDex_eq_ok settings h]
  split
  · rwa [List.append_nil]
  · intro first hfirst second hsecond hname
    rcases List.mem_append.mp hfirst with hfirst | hfirst <;>
      rcases List.mem_append.mp hsecond with hsecond | hsecond
    · exact hdex first hfirst second hsecond hname
    · rw [List.mem_singleton.mp hsecond] at hname ⊢
      exact hknown first hfirst hname
    · rw [List.mem_singleton.mp hfirst] at hname ⊢
      exact (hknown second hsecond hname.symm).symm
    · rw [List.mem_singleton.mp hfirst, List.mem_singleton.mp hsecond]

/-- The check leaves one offset for each name. -/
theorem sameOffsets_perpDexsAck {dex dex' : List Dex} {reply : List GetPerpDexsAckItem}
    (hdex : SameOffsets dex) (h : perpDexsAck settings dex reply = .ok dex') :
    SameOffsets dex' := by
  unfold perpDexsAck at h
  generalize reply.zipIdx = entries at h
  induction entries generalizing dex with
  | nil =>
    rw [List.foldlM_nil] at h
    exact Except.ok.inj h ▸ hdex
  | cons entry entries ih =>
    rw [List.foldlM_cons] at h
    obtain ⟨next, hentry, hentries⟩ := bind_eq_ok.mp h
    exact ih (sameOffsets_onPerpDex settings hdex hentry) hentries

/-- A reply has its names at the positions that a map gives them. -/
def KeepsPositions (position : String → Nat) (reply : List GetPerpDexsAckItem) : Prop :=
  ∀ i item, reply[i]? = some item → position item.name = i

/-- What the list should be after some replies, the last of which is `reply`: each kept
name of the replies once and no other name, and unchanged by the same reply again. -/
structure ListsOnce (replies : List (List GetPerpDexsAckItem))
    (reply : List GetPerpDexsAckItem) (dex : List Dex) : Prop where
  nodup : (dex.map Dex.name).Nodup
  names : ∀ name, name ∈ dex.map Dex.name ↔
    (∃ reply ∈ replies, name ∈ names reply) ∧ KeepsName settings name
  again : perpDexsAck settings dex reply = .ok dex

/-- From an empty list, every reply of a session leaves the list as it should be. -/
def ListsOnceThroughout (replies : List (List GetPerpDexsAckItem)) : Prop :=
  ∀ earlier reply later, replies = earlier ++ reply :: later →
    ∃ dex, perpDexsAcks settings [] (earlier ++ [reply]) = .ok dex ∧
      ListsOnce settings (earlier ++ [reply]) reply dex

/-- No name of a reply is kept. -/
def KeepsNothing (reply : List GetPerpDexsAckItem) : Prop :=
  ∀ name ∈ names reply, ¬ KeepsName settings name

private theorem kept_eq_nil_iff (reply : List GetPerpDexsAckItem) :
    kept settings reply = [] ↔ KeepsNothing settings reply := by
  constructor
  · intro hnil name hname hkeeps
    have hmem := (mem_names_kept settings).mpr ⟨hname, hkeeps⟩
    rw [hnil] at hmem
    exact absurd hmem List.not_mem_nil
  · intro hnothing
    apply List.eq_nil_iff_forall_not_mem.mpr
    intro entry hentry
    have hkept := (mem_kept settings).mp hentry
    exact hnothing entry.1.name (List.mem_map_of_mem (List.mem_of_getElem? hkept.1)) hkept.2

private theorem foldlM_onPerpDex_of_discard {entries : List (GetPerpDexsAckItem × Nat)}
    (h : ∀ entry ∈ entries, discard settings entry.1) :
    entries.foldlM (onPerpDex settings) [] = .ok [] := by
  induction entries with
  | nil => rfl
  | cons entry entries ih =>
    have hentry := h entry (List.mem_cons_self ..)
    have hfirst : onPerpDex settings [] entry = .ok [] := by
      simp only [onPerpDex, checkKnown, hentry, if_true]
      rfl
    rw [List.foldlM_cons, hfirst]
    exact ih fun later hlater ↦ h later (List.mem_cons_of_mem _ hlater)

/-- A reply of which nothing is kept leaves an empty list empty. -/
theorem perpDexsAck_of_keepsNothing {reply : List GetPerpDexsAckItem}
    (h : KeepsNothing settings reply) : perpDexsAck settings [] reply = .ok [] := by
  apply foldlM_onPerpDex_of_discard
  intro entry hentry
  have hitem := List.mem_of_getElem? (List.mem_zipIdx_iff_getElem?.mp hentry)
  have hname := h entry.1.name (List.mem_map_of_mem hitem)
  rw [← discard_eq_false_iff] at hname
  exact Bool.of_not_eq_false hname

private theorem perpDexsAcks_of_keepsNothing {replies : List (List GetPerpDexsAckItem)}
    (h : ∀ reply ∈ replies, KeepsNothing settings reply) :
    perpDexsAcks settings [] replies = .ok [] := by
  unfold perpDexsAcks
  induction replies with
  | nil => rfl
  | cons reply replies ih =>
    rw [List.foldlM_cons, perpDexsAck_of_keepsNothing settings (h reply (List.mem_cons_self ..))]
    exact ih fun later hlater ↦ h later (List.mem_cons_of_mem _ hlater)

/-- The list is as it should be throughout a session exactly when no reply has a name that
the settings keep, so that the list stays empty: a reply that is handled again appends
its kept names again. -/
theorem listsOnceThroughout_iff (replies : List (List GetPerpDexsAckItem)) :
    ListsOnceThroughout settings replies ↔
      ∀ reply ∈ replies, KeepsNothing settings reply := by
  constructor
  · intro hsound reply hreply
    obtain ⟨earlier, later, rfl⟩ := List.append_of_mem hreply
    obtain ⟨dex, _, hlists⟩ := hsound earlier reply later rfl
    have happend := perpDexsAck_eq_ok settings hlists.again
    rw [← kept_eq_nil_iff]
    have hnil : (kept settings reply).map dexOf = [] := by
      simpa using happend
    exact List.map_eq_nil_iff.mp hnil
  · rintro hnothing earlier reply later rfl
    have hearlier : ∀ seen ∈ earlier ++ [reply], KeepsNothing settings seen := by
      intro seen hseen
      apply hnothing
      rcases List.mem_append.mp hseen with hold | hlast
      · exact List.mem_append_left _ hold
      · rw [List.mem_singleton.mp hlast]
        exact List.mem_append_right _ (List.mem_cons_self ..)
    refine ⟨[], perpDexsAcks_of_keepsNothing settings hearlier, List.nodup_nil, ?_, ?_⟩
    · intro name
      simp only [List.map_nil, List.not_mem_nil, false_iff]
      rintro ⟨⟨seen, hseen, hname⟩, hkeeps⟩
      exact hearlier seen hseen name hname hkeeps
    · apply perpDexsAck_of_keepsNothing
      exact hearlier reply (List.mem_append_right _ (List.mem_cons_self ..))

/-- The main exchange alone, whose name is empty. -/
def mainOnly : List GetPerpDexsAckItem := [⟨""⟩]

/-- The list after the first download has the main exchange once; the same reply again
appends it a second time. -/
theorem main_listed_twice :
    ¬ ∀ (settings : Settings) (position : String → Nat)
      (replies : List (List GetPerpDexsAckItem)),
      (∀ reply ∈ replies, (names reply).Nodup ∧ KeepsPositions position reply) →
        ListsOnceThroughout settings replies := by
  intro h
  have hsound := h ⟨"hyperliquid", [], false⟩ (fun _ ↦ 0) [mainOnly] (by
    intro reply hreply
    rw [List.mem_singleton.mp hreply]
    refine ⟨by decide, ?_⟩
    intro i item hitem
    cases i with
    | zero => rfl
    | succ i => simp [mainOnly] at hitem)
  obtain ⟨dex, hdex, hlists⟩ := hsound [] mainOnly [] rfl
  have hfirst : dex = [⟨"", 0⟩] := (Except.ok.inj hdex).symm
  have hagain := hlists.again
  rw [hfirst] at hagain
  exact absurd (Except.ok.inj hagain) (by decide)

end Hyperliquid.Gateway.Rest
