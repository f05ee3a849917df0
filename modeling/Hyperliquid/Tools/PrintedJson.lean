import Hyperliquid.Base.JsonDocument
import Hyperliquid.Tools.SignedBytes

/-!
# What printed actions tell

The compact text that `nlohmann::ordered_json::dump` prints for a tree without doubles. A
reader of JSON reads the tree back from it, and sees what a reader of MessagePack sees in the
bytes of `pack_json`.
-/

namespace Hyperliquid.Base.Json

open JsonDocument

/-- A digit in base 16, in lower case. -/
def hexChar (n : Nat) : Char := Nat.digitChar (n % 16)

/-- A character inside a string literal: quotes, backslashes and control characters are
escaped. -/
def escape (c : Char) : List Char :=
  if c = '"' then ['\\', '"']
  else if c = '\\' then ['\\', '\\']
  else if c = Char.ofNat 8 then ['\\', 'b']
  else if c = '\t' then ['\\', 't']
  else if c = '\n' then ['\\', 'n']
  else if c = Char.ofNat 12 then ['\\', 'f']
  else if c = '\r' then ['\\', 'r']
  else if c < ' ' then ['\\', 'u', '0', '0', hexChar (c.toNat / 16), hexChar c.toNat]
  else [c]

def escapes (text : String) : List Char := text.toList.flatMap escape

mutual
/-- The text of a tree; doubles have no text here. -/
def dump : Json → List Char
  | .null => "null".toList
  | .boolean value => (toString value).toList
  | .integer value => (toString value.toInt).toList
  | .unsigned value => (toString value.toNat).toList
  | .float _ => []
  | .string value => quoted (escapes value)
  | .array items => arrayText (dumpItems items)
  | .object members => objectText (dumpMembers members)
/-- The texts of the items of an array. -/
def dumpItems : List Json → List (List Char)
  | [] => []
  | item :: items => dump item :: dumpItems items
/-- The texts of the members of an object. -/
def dumpMembers : List (String × Json) → List (List Char)
  | [] => []
  | (key, value) :: members => memberText (escapes key) (dump value) :: dumpMembers members
end

mutual
/-- A tree as a reader of JSON sees it: a number is its value. -/
def toTree : Json → Tree
  | .null => .null
  | .boolean value => .boolean value
  | .integer value => .integer value.toInt
  | .unsigned value => .integer value.toNat
  | .float _ => .null
  | .string value => .string value
  | .array items => .array (toTrees items)
  | .object members => .object (toEntries members)
/-- The items of an array. -/
def toTrees : List Json → List Tree
  | [] => []
  | item :: items => toTree item :: toTrees items
/-- The members of an object. -/
def toEntries : List (String × Json) → List (String × Tree)
  | [] => []
  | (key, value) :: members => (key, toTree value) :: toEntries members
end

/-- A node that is no double. -/
def nodeExact : Json → Bool
  | .float _ => false
  | _ => true

/-- A tree without doubles. -/
def exact : Json → Bool := everywhere nodeExact

private theorem exact_array (items : List Json) :
    exact (.array items) = true ↔ ∀ item ∈ items, item.exact = true := by
  rw [exact, everywhere_array]
  exact and_iff_right rfl

private theorem exact_object (members : List (String × Json)) :
    exact (.object members) = true ↔ ∀ member ∈ members, member.2.exact = true := by
  rw [exact, everywhere_object]
  exact and_iff_right rfl

/-! ## Texts -/

private theorem hexDigit?_hexChar (n : Nat) : hexDigit? (hexChar n) = some (n % 16) := by
  have hall : ∀ k < 16, hexDigit? (Nat.digitChar k) = some k := by decide
  exact hall _ (Nat.mod_lt _ (by decide))

/-- A control character is its code in four digits. -/
theorem unicode?_of_lt {c : Char} (h : c < ' ') :
    unicode? '0' '0' (hexChar (c.toNat / 16)) (hexChar c.toNat) = some c := by
  have hlt : c.toNat < 32 := h
  have hzero : hexDigit? '0' = some 0 := rfl
  have hcode : (((0 * 16 + 0) * 16 + c.toNat / 16 % 16) * 16 + c.toNat % 16) = c.toNat := by omega
  have hvalid : c.toNat.isValidChar := Or.inl (by omega)
  simp only [unicode?, hexDigit?_hexChar, hzero, Option.bind_eq_bind, Option.bind_some, hcode,
    if_pos hvalid, Char.ofNat_toNat]

/-- The escapes of a character stand for the character. -/
theorem spellsContent_escape (c : Char) {text chars : List Char} (h : SpellsContent text chars) :
    SpellsContent (escape c ++ text) (c :: chars) := by
  intro rest
  unfold escape
  split_ifs with hquote hbackslash hb ht hn hf hr hcontrol
  · subst hquote
    simp [content, escaped?, h rest]
  · subst hbackslash
    simp [content, escaped?, h rest]
  · subst hb
    simp [content, escaped?, h rest]
  · subst ht
    simp [content, escaped?, h rest]
  · subst hn
    simp [content, escaped?, h rest]
  · subst hf
    simp [content, escaped?, h rest]
  · subst hr
    simp [content, escaped?, h rest]
  · simp [content, unicode?_of_lt hcontrol, h rest]
  · have hplain : isPlain c = true := by
      simp [isPlain, hquote, hbackslash, Char.not_lt.mp hcontrol]
    exact h.cons_plain hplain rest

private theorem spellsContent_escapes (text : String) :
    SpellsContent (escapes text) text.toList := by
  unfold escapes
  induction text.toList with
  | nil => exact spellsContent_nil
  | cons c chars ih => exact spellsContent_escape c ih

private theorem spells_dump_string (text : String) :
    Spells (quoted (escapes text)) (.string text) := by
  have h := spells_string (spellsContent_escapes text)
  rwa [String.ofList_toList] at h

private theorem spells_dumpItems {items : List Json}
    (h : ∀ item ∈ items, Spells (dump item) (toTree item)) :
    List.Forall₂ Spells (dumpItems items) (toTrees items) := by
  induction items with
  | nil => exact .nil
  | cons item items ih =>
    obtain ⟨hitem, hitems⟩ := List.forall_mem_cons.mp h
    exact .cons hitem (ih hitems)

private theorem spells_dumpMembers {members : List (String × Json)}
    (h : ∀ member ∈ members, Spells (dump member.2) (toTree member.2)) :
    List.Forall₂ SpellsMember (dumpMembers members) (toEntries members) := by
  induction members with
  | nil => exact .nil
  | cons member members ih =>
    obtain ⟨hmember, hmembers⟩ := List.forall_mem_cons.mp h
    have hentry := spells_member (spellsContent_escapes member.1) hmember
    rw [String.ofList_toList] at hentry
    exact .cons hentry (ih hmembers)

/-- The text that is printed for a tree stands for the tree. -/
theorem spells_dump {tree : Json} (h : tree.exact = true) : Spells (dump tree) (toTree tree) := by
  induction tree using Json.induction with
  | null => exact spells_null
  | boolean value => exact spells_boolean value
  | integer value => exact spells_integer value.toInt
  | unsigned value => exact spells_integer value.toNat
  | float bits => cases h
  | string value => exact spells_dump_string value
  | array items ih =>
    apply spells_array
    apply spells_dumpItems
    intro item hitem
    exact ih item hitem ((exact_array items).mp h item hitem)
  | object members ih =>
    apply spells_object
    apply spells_dumpMembers
    intro member hmember
    exact ih member hmember ((exact_object members).mp h member hmember)

/-! ## The two readers -/

mutual
/-- A tree as a reader of MessagePack sees it. -/
def packed : Tree → MessagePack.Value
  | .null => .nil
  | .boolean value => .boolean value
  | .integer value => .integer value
  | .string text => .string (stringBytes text)
  | .array items => .array (packedItems items)
  | .object members => .map (packedMembers members)
/-- The items of an array. -/
def packedItems : List Tree → List MessagePack.Value
  | [] => []
  | item :: items => packed item :: packedItems items
/-- The members of an object. -/
def packedMembers : List (String × Tree) → List (MessagePack.Value × MessagePack.Value)
  | [] => []
  | (key, value) :: members => (.string (stringBytes key), packed value) :: packedMembers members
end

private theorem packedItems_toTrees {items : List Json}
    (h : ∀ item ∈ items, packed (toTree item) = toValue item) :
    packedItems (toTrees items) = toValues items := by
  induction items with
  | nil => rfl
  | cons item items ih =>
    obtain ⟨hitem, hitems⟩ := List.forall_mem_cons.mp h
    rw [toTrees, packedItems, toValues, hitem, ih hitems]

private theorem packedMembers_toEntries {members : List (String × Json)}
    (h : ∀ member ∈ members, packed (toTree member.2) = toValue member.2) :
    packedMembers (toEntries members) = toMembers members := by
  induction members with
  | nil => rfl
  | cons member members ih =>
    obtain ⟨hmember, hmembers⟩ := List.forall_mem_cons.mp h
    rw [toEntries, packedMembers, toMembers, hmember, ih hmembers]

/-- Both readers see the same in a tree without doubles. -/
theorem packed_toTree {tree : Json} (h : tree.exact = true) :
    packed (toTree tree) = toValue tree := by
  induction tree using Json.induction with
  | null => rfl
  | boolean value => rfl
  | integer value => rfl
  | unsigned value => rfl
  | float bits => cases h
  | string value => rfl
  | array items ih =>
    have hitems := (exact_array items).mp h
    rw [toTree, packed, toValue,
      packedItems_toTrees fun item hitem ↦ ih item hitem (hitems item hitem)]
  | object members ih =>
    have hmembers := (exact_object members).mp h
    rw [toTree, packed, toValue,
      packedMembers_toEntries fun member hmember ↦ ih member hmember (hmembers member hmember)]

mutual
/-- A tree is told by what a reader of MessagePack sees of it. -/
theorem packed_injective : ∀ {tree tree' : Tree}, packed tree = packed tree' → tree = tree'
  | .null, tree', h => by cases tree' <;> first | rfl | cases h
  | .boolean value, tree', h => by
    cases tree' <;> cases h
    rfl
  | .integer value, tree', h => by
    cases tree' <;> cases h
    rfl
  | .string text, tree', h => by
    cases tree' with
    | string text' => rw [stringBytes_injective (MessagePack.Value.string.inj h)]
    | _ => cases h
  | .array items, tree', h => by
    cases tree' with
    | array items' => rw [packedItems_injective (MessagePack.Value.array.inj h)]
    | _ => cases h
  | .object members, tree', h => by
    cases tree' with
    | object members' => rw [packedMembers_injective (MessagePack.Value.map.inj h)]
    | _ => cases h
private theorem packedItems_injective :
    ∀ {items items' : List Tree}, packedItems items = packedItems items' → items = items'
  | [], items', h => by
    cases items' with
    | nil => rfl
    | cons => cases h
  | item :: items, items', h => by
    cases items' with
    | nil => cases h
    | cons item' items' =>
      obtain ⟨hitem, hitems⟩ := List.cons.inj h
      rw [packed_injective hitem, packedItems_injective hitems]
private theorem packedMembers_injective : ∀ {members members' : List (String × Tree)},
    packedMembers members = packedMembers members' → members = members'
  | [], members', h => by
    cases members' with
    | nil => rfl
    | cons => cases h
  | (key, value) :: members, members', h => by
    cases members' with
    | nil => cases h
    | cons member' members' =>
      obtain ⟨hmember, hmembers⟩ := List.cons.inj h
      obtain ⟨hkey, hvalue⟩ := Prod.mk.inj hmember
      rw [stringBytes_injective (MessagePack.Value.string.inj hkey), packed_injective hvalue,
        packedMembers_injective hmembers]
end

end Hyperliquid.Base.Json
