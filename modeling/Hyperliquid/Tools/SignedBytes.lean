import Hyperliquid.Tools.PackedJson

/-!
# What signed bytes identify

`pack_helper` puts no length between the action, the nonce, the vault byte and the expiry.
The action delimits itself, so its bytes can still be told from what follows, as long as
MessagePack can hold the sizes in it.
-/

namespace Hyperliquid.Base.Json

open MessagePack

/-- A text is known by its bytes. -/
theorem stringBytes_injective {s t : String} (h : stringBytes s = stringBytes t) : s = t := by
  apply String.toByteArray_inj.mp
  apply ByteArray.ext
  exact Array.toList_inj.mp h

/-- Two lists with the same images are equal where their members are told by their images. -/
theorem eq_of_map_eq {α β : Type} {f : α → β} {xs ys : List α}
    (h : ∀ x ∈ xs, ∀ y ∈ ys, f x = f y → x = y) (heq : xs.map f = ys.map f) : xs = ys := by
  induction xs generalizing ys with
  | nil => exact (List.map_eq_nil_iff.mp heq.symm).symm
  | cons x xs ih =>
    cases ys with
    | nil => cases heq
    | cons y ys =>
      obtain ⟨hhead, htail⟩ := List.cons.inj heq
      rw [h x (List.mem_cons_self ..) y (List.mem_cons_self ..) hhead]
      congr 1
      apply ih _ htail
      intro x' hx' y' hy'
      exact h x' (List.mem_cons_of_mem _ hx') y' (List.mem_cons_of_mem _ hy')

/-- A tree whose numbers are signed is told by what MessagePack sees of it. -/
theorem eq_of_toValue_eq {tree tree' : Json} (h : tree.signed = true)
    (h' : tree'.signed = true) (heq : tree.toValue = tree'.toValue) : tree = tree' := by
  induction tree using Json.induction generalizing tree' with
  | null => cases tree' <;> first | rfl | cases heq
  | boolean value =>
    cases tree' <;> cases heq
    rfl
  | integer value =>
    cases tree' with
    | integer value' => rw [Int64.toInt_inj.mp (Value.integer.inj heq)]
    | unsigned value' => cases h'
    | _ => cases heq
  | unsigned value => cases h
  | float bits => cases h
  | string value =>
    cases tree' with
    | string value' => rw [stringBytes_injective (Value.string.inj heq)]
    | _ => cases heq
  | array items ih =>
    cases tree' with
    | array items' =>
      have hitems := ((everywhere_array nodeSigned items).mp h).2
      have hitems' := ((everywhere_array nodeSigned items').mp h').2
      have hvalues : items.map toValue = items'.map toValue := by
        rw [← toValues_eq, ← toValues_eq]
        exact Value.array.inj heq
      congr 1
      apply eq_of_map_eq _ hvalues
      intro item hitem item' hitem'
      exact ih item hitem (hitems item hitem) (hitems' item' hitem')
    | _ => cases heq
  | object members ih =>
    cases tree' with
    | object members' =>
      have hmembers := ((everywhere_object nodeSigned members).mp h).2
      have hmembers' := ((everywhere_object nodeSigned members').mp h').2
      have hvalues : members.map toMember = members'.map toMember := by
        rw [← toMembers_eq, ← toMembers_eq]
        exact Value.map.inj heq
      congr 1
      apply eq_of_map_eq _ hvalues
      intro member hmember member' hmember' hsame
      obtain ⟨hkey, hvalue⟩ := Prod.mk.inj hsame
      apply Prod.ext
      · exact stringBytes_injective (Value.string.inj hkey)
      · exact ih member hmember (hmembers member hmember) (hmembers' member' hmember') hvalue
    | _ => cases heq

end Hyperliquid.Base.Json

namespace Hyperliquid.Tools.Encoder

open Hyperliquid.Base Hyperliquid.Base.MessagePack Reader

/-- The expiry that `pack_helper` packs. -/
def effectiveExpiry (nowUtc expiresAfterUtc : Int64) : Option Int64 :=
  if expiresAfterUtc ≠ 0 ∧ expiresAfterUtc ≠ nowUtc then some expiresAfterUtc else none

/-- What follows the vault byte. -/
def packExpiry : Option Int64 → List UInt8
  | none => []
  | some expiry => 0x00 :: BigEndian.shiftBytes expiry

/-- The signed bytes are the action, the time and the expiry. -/
theorem packHelper_eq (action : Json) (nowUtc expiresAfterUtc : Int64) :
    packHelper action nowUtc expiresAfterUtc =
      packJson action ++ (BigEndian.shiftBytes nowUtc ++
        0x00 :: packExpiry (effectiveExpiry nowUtc expiresAfterUtc)) := by
  unfold packHelper effectiveExpiry
  split_ifs with h
  · simp only [packExpiry, List.append_assoc, List.singleton_append]
  · simp only [packExpiry, List.append_assoc, List.append_nil]

/-- A time is known by its bytes. -/
theorem shiftBytes_injective {x y : Int64}
    (h : BigEndian.shiftBytes x = BigEndian.shiftBytes y) : x = y := by
  rw [← BigEndian.toInt64_shiftBytes x, h, BigEndian.toInt64_shiftBytes]

private theorem packExpiry_injective {expiry expiry' : Option Int64}
    (h : packExpiry expiry = packExpiry expiry') : expiry = expiry' := by
  cases expiry with
  | none =>
    cases expiry' with
    | none => rfl
    | some _ => cases h
  | some value =>
    cases expiry' with
    | none => cases h
    | some value' => rw [shiftBytes_injective (List.cons.inj h).2]

/-- Trees that fit and start equal strings are seen as the same value. -/
theorem toValue_eq_of_packJson {tree tree' : Json} (hfits : tree.fits = true)
    (hfits' : tree'.fits = true) {rest rest' : List UInt8}
    (h : packJson tree ++ rest = packJson tree' ++ rest') :
    tree.toValue = tree'.toValue ∧ rest = rest' := by
  have hreads := reads_packJson hfits (Nat.le_max_left _ (packJson tree').length)
  have hreads' := reads_packJson hfits' (Nat.le_max_right (packJson tree).length _)
  exact hreads.unique hreads' h

/-- The signed bytes identify the action, the nonce and the expiry that is packed, when the
sizes in the actions fit. -/
theorem packHelper_injective {action action' : Json}
    {nowUtc nowUtc' expiresAfterUtc expiresAfterUtc' : Int64} (hsigned : action.signed = true)
    (hsigned' : action'.signed = true) (hfits : action.fits = true)
    (hfits' : action'.fits = true)
    (h : packHelper action nowUtc expiresAfterUtc =
      packHelper action' nowUtc' expiresAfterUtc') :
    action = action' ∧ nowUtc = nowUtc' ∧
      effectiveExpiry nowUtc expiresAfterUtc = effectiveExpiry nowUtc' expiresAfterUtc' := by
  rw [packHelper_eq, packHelper_eq] at h
  obtain ⟨hvalue, hrest⟩ := toValue_eq_of_packJson hfits hfits' h
  have hlength : (BigEndian.shiftBytes nowUtc).length = (BigEndian.shiftBytes nowUtc').length := by
    rw [BigEndian.length_shiftBytes, BigEndian.length_shiftBytes]
  obtain ⟨hnonce, hexpiry⟩ := List.append_inj hrest hlength
  refine ⟨Json.eq_of_toValue_eq hsigned hsigned' hvalue, shiftBytes_injective hnonce, ?_⟩
  exact packExpiry_injective (List.cons.inj hexpiry).2

/-- An expiry at the time of the request is not packed, like no expiry. -/
theorem packHelper_injective_unpacked :
    Json.array [.integer 1, .null] = .array [.integer 1, .null] ∧ (5 : Int64) = 5 ∧
      effectiveExpiry 5 0 = effectiveExpiry 5 5 :=
  packHelper_injective (by decide) (by decide) (by decide) (by decide) (by decide)

private theorem packItems_append (items items' : List Json) :
    packItems (items ++ items') = packItems items ++ packItems items' := by
  rw [packItems_eq, packItems_eq, packItems_eq, List.flatMap_append]

/-- An array of `n` nulls. -/
def nulls (n : Nat) : Json := .array (List.replicate n .null)

/-- Two arrays, of which the first has `k + 1` items more than `m`. -/
def longFirst (m k : Nat) : Json :=
  .array [.array (List.replicate m .null ++ nulls m :: List.replicate k .null), nulls m]

/-- Two arrays, of which the second has `k + 1` items more than `m`. -/
def longSecond (m k : Nat) : Json :=
  .array [nulls m, .array (List.replicate (m + k) .null ++ [nulls m])]

private theorem length_longFirst (m k : Nat) :
    (List.replicate m Json.null ++ nulls m :: List.replicate k .null).length = m + (k + 1) := by
  rw [List.length_append, List.length_cons, List.length_replicate, List.length_replicate]

private theorem longFirst_ne_longSecond (m k : Nat) : longFirst m k ≠ longSecond m k := by
  intro h
  have hitems := Json.array.inj (List.cons.inj (Json.array.inj h)).1
  have hlength := congrArg List.length hitems
  rw [length_longFirst, List.length_replicate] at hlength
  omega

/-- Where the header of `m + (k + 1)` items is that of `m` items, the items behind the first
`m` could be in either array. -/
theorem packJson_longFirst {m k : Nat} (h : packArray (m + (k + 1)) = packArray m) :
    packJson (longFirst m k) = packJson (longSecond m k) := by
  have hlength : (List.replicate (m + k) Json.null ++ [nulls m]).length = m + (k + 1) := by
    rw [List.length_append, List.length_replicate, List.length_singleton, Nat.add_assoc]
  have hnulls : packJson (nulls m) =
      packArray m ++ packItems (List.replicate m Json.null) := by
    rw [nulls, packJson, List.length_replicate]
  have hsplit : packItems (List.replicate (m + k) Json.null) =
      packItems (List.replicate m Json.null) ++ packItems (List.replicate k Json.null) := by
    rw [← List.replicate_append_replicate, packItems_append]
  simp only [longFirst, longSecond, packJson, packItems, packItems_append, length_longFirst,
    hlength, h, hnulls, hsplit, List.length_cons, List.length_nil, List.append_assoc,
    List.append_nil]

private theorem signed_array {items : List Json} (h : ∀ item ∈ items, item.signed = true) :
    (Json.array items).signed = true :=
  (Json.everywhere_array _ _).mpr ⟨rfl, h⟩

private theorem signed_pair {first second : Json} (hfirst : first.signed = true)
    (hsecond : second.signed = true) : (Json.array [first, second]).signed = true :=
  signed_array (List.forall_mem_cons.mpr ⟨hfirst, List.forall_mem_singleton.mpr hsecond⟩)

private theorem signed_of_mem_replicate {n : Nat} {item : Json}
    (h : item ∈ List.replicate n Json.null) : item.signed = true := by
  rw [List.eq_of_mem_replicate h]
  rfl

private theorem signed_nulls (n : Nat) : (nulls n).signed = true :=
  signed_array fun _ ↦ signed_of_mem_replicate

private theorem signed_longFirst (m k : Nat) : (longFirst m k).signed = true := by
  refine signed_pair (signed_array ?_) (signed_nulls m)
  refine List.forall_mem_append.mpr ⟨fun _ ↦ signed_of_mem_replicate, ?_⟩
  exact List.forall_mem_cons.mpr ⟨signed_nulls m, fun _ ↦ signed_of_mem_replicate⟩

private theorem signed_longSecond (m k : Nat) : (longSecond m k).signed = true := by
  refine signed_pair (signed_nulls m) (signed_array ?_)
  refine List.forall_mem_append.mpr ⟨fun _ ↦ signed_of_mem_replicate, ?_⟩
  exact List.forall_mem_singleton.mpr (signed_nulls m)

/-- A size from `2 ^ 32` on loses its high bits, here `2 ^ 32 + 2 ^ 16` items: the bytes do
not tell which of two arrays the items are in. -/
theorem packHelper_not_injective :
    ¬ ∀ (action action' : Json) (nowUtc nowUtc' expiresAfterUtc expiresAfterUtc' : Int64),
      action.signed = true → action'.signed = true →
        packHelper action nowUtc expiresAfterUtc =
          packHelper action' nowUtc' expiresAfterUtc' →
        action = action' ∧ nowUtc = nowUtc' ∧
          effectiveExpiry nowUtc expiresAfterUtc =
            effectiveExpiry nowUtc' expiresAfterUtc' := by
  intro h
  have hheader : packArray (65536 + (4294967295 + 1)) = packArray 65536 := by decide
  have hpacked : packHelper (longFirst 65536 4294967295) 0 0 =
      packHelper (longSecond 65536 4294967295) 0 0 := by
    rw [packHelper_eq, packHelper_eq, packJson_longFirst hheader]
  have heq := h _ _ 0 0 0 0 (signed_longFirst _ _) (signed_longSecond _ _) hpacked
  exact longFirst_ne_longSecond _ _ heq.1

end Hyperliquid.Tools.Encoder
