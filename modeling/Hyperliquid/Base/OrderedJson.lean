import Hyperliquid.Base.MessagePack

/-!
# Ordered JSON trees and their MessagePack form

`Json` is the value type of `nlohmann::ordered_json`: object members keep their order,
and signed and unsigned integers are different nodes. Doubles are kept as bit patterns,
since no modelled code computes with a double inside a tree.
-/

namespace Hyperliquid.Base

/-- An ordered JSON tree. -/
inductive Json where
  | null
  | boolean (value : Bool)
  | integer (value : Int64)
  | unsigned (value : UInt64)
  | float (bits : UInt64)
  | string (value : String)
  | array (items : List Json)
  | object (members : List (String × Json))
  deriving Repr

namespace Json

/-- The value of a member of an object; objects built here have distinct names. -/
def member? (node : Json) (name : String) : Option Json :=
  match node with
  | object members => members.lookup name
  | _ => none

/-- The item of an array. -/
def item? (node : Json) (i : Nat) : Option Json :=
  match node with
  | array items => items[i]?
  | _ => none

/-- Induction over trees: a compound tree may use what holds of its parts. -/
@[elab_as_elim]
theorem induction {P : Json → Prop} (null : P .null) (boolean : ∀ value, P (.boolean value))
    (integer : ∀ value, P (.integer value)) (unsigned : ∀ value, P (.unsigned value))
    (float : ∀ bits, P (.float bits)) (string : ∀ value, P (.string value))
    (array : ∀ items, (∀ item ∈ items, P item) → P (.array items))
    (object : ∀ members, (∀ entry ∈ members, P entry.2) → P (.object members)) (tree : Json) :
    P tree :=
  @Json.rec P (fun items ↦ ∀ item ∈ items, P item) (fun members ↦ ∀ entry ∈ members, P entry.2)
    (fun entry ↦ P entry.2) null boolean integer unsigned float string array object nofun
    (fun _ _ head tail ↦ List.forall_mem_cons.mpr ⟨head, tail⟩) nofun
    (fun _ _ head tail ↦ List.forall_mem_cons.mpr ⟨head, tail⟩) (fun _ _ value ↦ value) tree

/-- The bytes of a string as `std::string` holds them. -/
def stringBytes (s : String) : List UInt8 := s.toUTF8.data.toList

end Json
end Hyperliquid.Base
