import Hyperliquid.Base.MessagePackReader
import Hyperliquid.Tools.Encoder

/-!
# What packed actions tell

Reading the bytes of `pack_json` back: a tree is told by its bytes unless `pack_json` has
narrowed an unsigned number or a size does not fit into its header. The signed bytes are
those of the action with a nonce and an expiry behind them.
-/

namespace Hyperliquid.Base.Json

open MessagePack

mutual
/-- A tree as MessagePack sees it: a number is its value, a string its bytes. -/
def toValue : Json → Value
  | .null => .nil
  | .boolean value => .boolean value
  | .integer value => .integer value.toInt
  | .unsigned value => .integer value.toNat
  | .float bits => .float bits
  | .string value => .string (stringBytes value)
  | .array items => .array (toValues items)
  | .object members => .map (toMembers members)
/-- The items of an array. -/
def toValues : List Json → List Value
  | [] => []
  | item :: items => toValue item :: toValues items
/-- The members of an object. -/
def toMembers : List (String × Json) → List (Value × Value)
  | [] => []
  | (key, value) :: members => (.string (stringBytes key), toValue value) :: toMembers members
end

mutual
/-- A property of the nodes holds everywhere in a tree. -/
def everywhere (p : Json → Bool) : Json → Bool
  | .array items => p (.array items) && everywhereItems p items
  | .object members => p (.object members) && everywhereMembers p members
  | node => p node
/-- A property of the nodes holds in all items of an array. -/
def everywhereItems (p : Json → Bool) : List Json → Bool
  | [] => true
  | item :: items => everywhere p item && everywhereItems p items
/-- A property of the nodes holds in all members of an object. -/
def everywhereMembers (p : Json → Bool) : List (String × Json) → Bool
  | [] => true
  | (_, value) :: members => everywhere p value && everywhereMembers p members
end

/-- A string whose size a header can hold. -/
def stringFits (value : String) : Bool := (stringBytes value).length < 2 ^ 32

/-- A node whose size fits into 32 bits. -/
def nodeSized : Json → Bool
  | .string value => stringFits value
  | .array items => items.length < 2 ^ 32
  | .object members => members.length < 2 ^ 32 && members.all fun member ↦ stringFits member.1
  | _ => true

/-- A node of the kinds that actions are built from, of a size that fits. -/
def nodePlain : Json → Bool
  | .float _ => false
  | node => nodeSized node

/-- A tree of such nodes. -/
def plain : Json → Bool := everywhere nodePlain

/-- A node that is packed without loss: its size fits, and an unsigned number is a signed
64-bit number too. -/
def nodeFits : Json → Bool
  | .unsigned value => value.toNat < 2 ^ 63
  | node => nodeSized node

/-- A tree that is packed without loss. -/
def fits : Json → Bool := everywhere nodeFits

/-- A node that is no unsigned number and no double. -/
def nodeSigned : Json → Bool
  | .unsigned _ => false
  | .float _ => false
  | _ => true

/-- A tree whose numbers are signed integers. -/
def signed : Json → Bool := everywhere nodeSigned

/-- A member as MessagePack sees it. -/
def toMember (member : String × Json) : Value × Value :=
  (.string (stringBytes member.1), toValue member.2)

/-- Items are packed one by one. -/
theorem toValues_eq (items : List Json) : toValues items = items.map toValue := by
  induction items with
  | nil => rfl
  | cons item items ih => rw [toValues, ih, List.map_cons]

/-- Members are packed one by one. -/
theorem toMembers_eq (members : List (String × Json)) :
    toMembers members = members.map toMember := by
  induction members with
  | nil => rfl
  | cons member members ih => rw [toMembers, ih, List.map_cons]; rfl

/-- A condition holds everywhere in an array. -/
theorem everywhere_array (p : Json → Bool) (items : List Json) :
    everywhere p (.array items) = true ↔
      p (.array items) = true ∧ ∀ item ∈ items, everywhere p item = true := by
  have hitems : everywhereItems p items = true ↔ ∀ item ∈ items, everywhere p item = true := by
    induction items with
    | nil => exact iff_of_true rfl nofun
    | cons item items ih => rw [everywhereItems, Bool.and_eq_true, ih, List.forall_mem_cons]
  rw [everywhere, Bool.and_eq_true, hitems]

/-- A condition holds everywhere in an object. -/
theorem everywhere_object (p : Json → Bool) (members : List (String × Json)) :
    everywhere p (.object members) = true ↔
      p (.object members) = true ∧ ∀ member ∈ members, everywhere p member.2 = true := by
  have hmembers : everywhereMembers p members = true ↔
      ∀ member ∈ members, everywhere p member.2 = true := by
    induction members with
    | nil => exact iff_of_true rfl nofun
    | cons member members ih =>
      rw [everywhereMembers, Bool.and_eq_true, ih, List.forall_mem_cons]
  rw [everywhere, Bool.and_eq_true, hmembers]

private theorem stringFits_iff (value : String) :
    stringFits value = true ↔ (stringBytes value).length < 2 ^ 32 := decide_eq_true_iff

private theorem fits_array (items : List Json) :
    fits (.array items) = true ↔ items.length < 2 ^ 32 ∧ ∀ item ∈ items, item.fits = true := by
  rw [fits, everywhere_array]
  show decide (items.length < 2 ^ 32) = true ∧ _ ↔ _
  rw [decide_eq_true_iff]

private theorem fits_object (members : List (String × Json)) :
    fits (.object members) = true ↔ members.length < 2 ^ 32 ∧
      ∀ member ∈ members, stringFits member.1 = true ∧ member.2.fits = true := by
  rw [fits, everywhere_object]
  show (decide (members.length < 2 ^ 32) && members.all _) = true ∧ _ ↔ _
  rw [Bool.and_eq_true, decide_eq_true_iff, List.all_eq_true, and_assoc, ← forall₂_and]

end Hyperliquid.Base.Json

namespace Hyperliquid.Tools.Encoder

open Hyperliquid.Base Hyperliquid.Base.MessagePack Reader

/-- The bytes of a member. -/
def packMember (member : String × Json) : List UInt8 :=
  packStr (Json.stringBytes member.1) ++ packJson member.2

/-- The bytes of items follow each other. -/
theorem packItems_eq (items : List Json) : packItems items = items.flatMap packJson := by
  induction items with
  | nil => rfl
  | cons item items ih => rw [packItems, ih, List.flatMap_cons]

private theorem packMembers_eq (members : List (String × Json)) :
    packMembers members = members.flatMap packMember := by
  induction members with
  | nil => rfl
  | cons member members ih => rw [packMembers, ih, List.flatMap_cons, packMember]

private theorem length_le_flatMap {α : Type} (encode : α → List UInt8) {items : List α} {item : α}
    (h : item ∈ items) : (encode item).length ≤ (items.flatMap encode).length := by
  obtain ⟨before, after, rfl⟩ := List.append_of_mem h
  simp only [List.flatMap_append, List.flatMap_cons, List.length_append]
  omega

/-- An unsigned number is unchanged by `get<int64_t>` exactly when it is below `2 ^ 63`. -/
theorem toInt_toInt64_eq_iff (value : UInt64) :
    value.toInt64.toInt = value.toNat ↔ value.toNat < 2 ^ 63 := by
  have hlt : value.toNat < 2 ^ 64 := value.toNat_lt
  show value.toBitVec.toInt = value.toNat ↔ _
  rw [BitVec.toInt_eq_toNat_cond]
  show (if 2 * value.toNat < 2 ^ 64 then (value.toNat : Int)
    else (value.toNat : Int) - (2 ^ 64 : Nat)) = value.toNat ↔ _
  split <;> omega

/-- A tree that fits delimits itself and is read back. -/
theorem reads_packJson {tree : Json} (hfits : tree.fits = true) {depth : Nat}
    (hdepth : (packJson tree).length ≤ depth) :
    Reads (read depth) (packJson tree) tree.toValue := by
  induction tree using Json.induction generalizing depth with
  | null => exact reads_of_header_only reads_packNil (fun _ ↦ rfl) hdepth
  | boolean value => exact reads_of_header_only (reads_packBool value) (fun _ ↦ rfl) hdepth
  | integer value =>
    have hheader := reads_packInt value.le_toInt value.toInt_lt
    exact reads_of_header_only hheader (fun _ ↦ rfl) hdepth
  | unsigned value =>
    have hvalue := (toInt_toInt64_eq_iff value).mpr (of_decide_eq_true hfits)
    have hheader := reads_packInt value.toInt64.le_toInt value.toInt64.toInt_lt
    refine reads_of_header_only hheader (fun _ ↦ ?_) hdepth
    rw [hvalue]
    rfl
  | float bits => exact reads_of_header_only (reads_packFloat64 bits) (fun _ ↦ rfl) hdepth
  | string value => exact reads_packStr ((Json.stringFits_iff value).mp hfits) hdepth
  | array items ih =>
    obtain ⟨hlength, hitems⟩ := (Json.fits_array items).mp hfits
    have hheader := reads_packArray items.length
    rw [Nat.mod_eq_of_lt hlength] at hheader
    rw [packJson, packItems_eq] at hdepth ⊢
    rw [Json.toValue, Json.toValues_eq]
    apply reads_of_header hheader _ hdepth
    intro depth hbytes
    refine (reads_many fun item hitem ↦ ?_).map Value.array
    exact ih item hitem (hitems item hitem) ((length_le_flatMap packJson hitem).trans hbytes)
  | object members ih =>
    obtain ⟨hlength, hmembers⟩ := (Json.fits_object members).mp hfits
    have hheader := reads_packMap members.length
    rw [Nat.mod_eq_of_lt hlength] at hheader
    rw [packJson, packMembers_eq] at hdepth ⊢
    rw [Json.toValue, Json.toMembers_eq]
    apply reads_of_header hheader _ hdepth
    intro depth hbytes
    refine (reads_many fun member hmember ↦ ?_).map Value.map
    have hmember' := (length_le_flatMap packMember hmember).trans hbytes
    rw [packMember, List.length_append] at hmember'
    apply Reads.pair
    · exact reads_packStr ((Json.stringFits_iff _).mp (hmembers member hmember).1) (by omega)
    · exact ih member hmember (hmembers member hmember).2 (by omega)

/-- What is read back whole has been packed without loss. -/
theorem fits_of_read {tree : Json} {depth : Nat} (hdepth : (packJson tree).length ≤ depth)
    {rest rest' : List UInt8}
    (h : read depth (packJson tree ++ rest) = some (tree.toValue, rest')) :
    tree.fits = true := by
  induction tree using Json.induction generalizing depth rest rest' with
  | null => rfl
  | boolean value => rfl
  | integer value => rfl
  | unsigned value =>
    have hheader := reads_packInt value.toInt64.le_toInt value.toInt64.toInt_lt
    obtain ⟨inner, _, hbody⟩ := body_of_read hheader h
    have hpair := Prod.mk.inj (Option.some.inj hbody)
    exact decide_eq_true ((toInt_toInt64_eq_iff value).mp (Value.integer.inj hpair.1))
  | float bits => rfl
  | string value => exact (Json.stringFits_iff value).mpr (length_lt_of_read_packStr h)
  | array items ih =>
    rw [packJson, packItems_eq, List.length_append] at hdepth
    rw [packJson, packItems_eq, Json.toValue, Json.toValues_eq, List.append_assoc] at h
    have hheader := reads_packArray items.length
    have hpos := length_pos_of_reads_header hheader
    obtain ⟨inner, rfl, hbody⟩ := body_of_read hheader h
    obtain ⟨values, _, hmany, hpure⟩ := bind_eq_some hbody
    cases hpure
    have hlength := length_of_many hmany
    rw [List.length_map] at hlength
    rw [← hlength] at hmany
    have hlt : items.length % 2 ^ 32 < 2 ^ 32 := Nat.mod_lt _ (by omega)
    have hinner {item : Json} (hitem : item ∈ items) : (packJson item).length ≤ inner := by
      have hle := length_le_flatMap packJson hitem
      omega
    refine (Json.fits_array items).mpr ⟨by omega, ?_⟩
    refine forall_of_many (P := fun item ↦ item.fits = true) ?_ ?_ hmany
    · intro item hitem hfits
      exact reads_packJson hfits (hinner hitem)
    · intro item hitem rest rest' hread
      exact ih item hitem (hinner hitem) hread
  | object members ih =>
    rw [packJson, packMembers_eq, List.length_append] at hdepth
    rw [packJson, packMembers_eq, Json.toValue, Json.toMembers_eq, List.append_assoc] at h
    have hheader := reads_packMap members.length
    have hpos := length_pos_of_reads_header hheader
    obtain ⟨inner, rfl, hbody⟩ := body_of_read hheader h
    obtain ⟨values, _, hmany, hpure⟩ := bind_eq_some hbody
    cases hpure
    have hlength := length_of_many hmany
    rw [List.length_map] at hlength
    rw [← hlength] at hmany
    have hlt : members.length % 2 ^ 32 < 2 ^ 32 := Nat.mod_lt _ (by omega)
    have hinner {member : String × Json} (hmember : member ∈ members) :
        (packStr (Json.stringBytes member.1)).length + (packJson member.2).length ≤ inner := by
      have hle := length_le_flatMap packMember hmember
      rw [packMember, List.length_append] at hle
      omega
    refine (Json.fits_object members).mpr ⟨by omega, ?_⟩
    refine forall_of_many
      (P := fun member ↦ Json.stringFits member.1 = true ∧ member.2.fits = true) ?_ ?_ hmany
    · intro member hmember hfits
      have hkey := (Json.stringFits_iff member.1).mp hfits.1
      have hle := hinner hmember
      exact (reads_packStr hkey (by omega)).pair (reads_packJson hfits.2 (by omega))
    · intro member hmember rest rest' hread
      have hle := hinner hmember
      rw [packMember, List.append_assoc] at hread
      obtain ⟨key, middle, hkey, hvalue⟩ := bind_eq_some hread
      obtain ⟨value, _, hvalue, hpure⟩ := bind_eq_some hvalue
      cases hpure
      have hfits := length_lt_of_read_packStr hkey
      rw [reads_packStr hfits (by omega)] at hkey
      cases hkey
      exact ⟨(Json.stringFits_iff member.1).mpr hfits, ih member hmember (by omega) hvalue⟩

/-- Reading the bytes of a tree gives back the tree, and consumes exactly these bytes, if and
only if the tree fits. -/
theorem decode_packJson_iff (tree : Json) :
    decode (packJson tree) = some (tree.toValue, []) ↔ tree.fits = true := by
  constructor
  · intro h
    have hread : read (packJson tree).length (packJson tree ++ []) = some (tree.toValue, []) := by
      rwa [List.append_nil]
    exact fits_of_read (Nat.le_refl _) hread
  · intro h
    have hreads := reads_packJson h (Nat.le_refl _) []
    rwa [List.append_nil] at hreads

/-- The unsigned number `2 ^ 63` is packed as the signed number `-2 ^ 63`. -/
theorem unsigned_narrowed :
    ¬ ∀ tree : Json, tree.plain = true → decode (packJson tree) = some (tree.toValue, []) := by
  intro h
  have hread := h (.unsigned 0x8000000000000000) rfl
  have hfits := (decode_packJson_iff (.unsigned 0x8000000000000000)).mp hread
  have hlt : (0x8000000000000000 : UInt64).toNat < 2 ^ 63 := of_decide_eq_true hfits
  exact absurd hlt (by decide)

end Hyperliquid.Tools.Encoder
