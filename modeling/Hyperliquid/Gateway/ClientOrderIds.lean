import Hyperliquid.Tools.CreatedOrders

/-!
# Client ids on their paths

The client id of an order in what is sent for it: the actions of the encoder, and the request
of `OrderEntry::get_order_status`, `src/roq/hyperliquid/gateway/order_entry.cpp:466–496`. The
handlers of order updates read it back with `get_client_order_id`.
-/

namespace Hyperliquid.Gateway

open Hyperliquid.Base Hyperliquid.Oms Hyperliquid.Tools

/-- `get_client_order_id`, `src/roq/hyperliquid/protocol/json/utils.cpp:14–19`. -/
def getClientOrderId (cloid : String) : String :=
  match cloid.toList with
  | '0' :: 'x' :: rest => String.ofList rest
  | _ => cloid

/-- The value printed as `"oid"`. -/
inductive Oid where
  | cloid (text : String)
  | external (text : String)
  deriving DecidableEq, Repr

def Oid.format : Oid → String
  | cloid text => "\"" ++ text ++ "\""
  | external text => text

/-- The request body of `get_order_status`. -/
structure OrderStatusBody where
  user : String
  oid : Oid
  deriving DecidableEq, Repr

/-- The text of the body. -/
def OrderStatusBody.format (body : OrderStatusBody) : String :=
  "\x7b\"type\":\"orderStatus\",\"user\":\"" ++ body.user ++ "\",\"oid\":" ++ body.oid.format ++
    "\x7d"

/-- `get_order_status`, `order_entry.cpp:468–480`. -/
def orderStatusBody (key clientOrderId externalOrderId : String) : OrderStatusBody where
  user := key
  oid :=
    if externalOrderId.isEmpty then .cloid ("0x" ++ clientOrderId) else .external externalOrderId

/-- The client id of an action of `cancel_order`. -/
def cancelledCloid? (action : Json) : Option String :=
  match ((action.member? "cancels").bind fun cancels ↦ cancels.item? 0).bind fun cancel ↦
    cancel.member? "cloid" with
  | some (.string cloid) => some cloid
  | _ => none

/-- A text that is sent for the id of an order on every path, and read back as the id. -/
structure SameOnAllPaths (F : Type) [Double F] (id cloid : String) : Prop where
  created : ∀ lib (createOrder : CreateOrder F) refData nowUtc expiresAfterUtc encoded,
    Encoder.createOrder lib createOrder refData id nowUtc expiresAfterUtc = .ok encoded →
      Encoder.createdText? "c" encoded.action = some cloid
  cancelled : ∀ lib (order : Order) refData nowUtc expiresAfterUtc encoded,
    order.clientOrderId = id → order.externalOrderId = "" →
      Encoder.cancelOrder lib order refData nowUtc expiresAfterUtc = .ok encoded →
        cancelledCloid? encoded.action = some cloid
  requested : ∀ key, (orderStatusBody key id "").oid = .cloid cloid
  readBack : getClientOrderId cloid = id

/-- An order with an id has one client id. -/
def HasOneCloid (F : Type) [Double F] (id : String) : Prop := ∃ cloid, SameOnAllPaths F id cloid

section

variable {F : Type} [Double F] {id cloid : String}

omit [Double F] in
/-- Without an external id `cancel_order` sends the filled-up id, and never fails. -/
theorem cancelOrderAction_of_isEmpty (lib : Encoder.Library) {order : Order} (refData : RefData)
    (h : order.externalOrderId = "") :
    ∃ action, Encoder.cancelOrderAction lib order refData = .ok action ∧
      cancelledCloid? action = some (Encoder.formatCloid order.clientOrderId) := by
  rw [Encoder.cancelOrderAction, h]
  exact ⟨_, rfl, rfl⟩

/-- Prefixed ids are read back. -/
theorem getClientOrderId_append (id : String) : getClientOrderId ("0x" ++ id) = id := by
  have htext : ("0x" ++ id).toList = '0' :: 'x' :: id.toList := by
    rw [String.toList_append]
    rfl
  rw [getClientOrderId, htext]
  exact String.ofList_toList

/-- Filling up changes an id exactly when it is too short. -/
theorem formatCloid_eq_iff : Encoder.formatCloid id = "0x" ++ id ↔ 32 ≤ id.toList.length := by
  rw [Encoder.formatCloid, String.append_right_inj, ← String.toList_inj, String.toList_ofList]
  constructor
  · intro h
    rw [← h, List.length_leftpad]
    exact le_max_left _ _
  · intro h
    rw [List.leftpad, Nat.sub_eq_zero_of_le h]
    rfl

omit [Double F] in
private theorem cancelledCloid?_of_ok {lib : Encoder.Library} {order : Order} {refData : RefData}
    {nowUtc expiresAfterUtc : Int64} {encoded : Encoder.Encoded} (h : order.externalOrderId = "")
    (hok : Encoder.cancelOrder lib order refData nowUtc expiresAfterUtc = .ok encoded) :
    cancelledCloid? encoded.action = some (Encoder.formatCloid order.clientOrderId) := by
  obtain ⟨action, haction, hcloid⟩ := cancelOrderAction_of_isEmpty lib refData h
  rw [Encoder.cancelOrder, haction] at hok
  rw [← Except.ok.inj hok]
  exact hcloid

/-- The request sends the id as it is, the cancellation fills it up. -/
theorem SameOnAllPaths.formatCloid_eq (h : SameOnAllPaths F id cloid) :
    Encoder.formatCloid id = "0x" ++ id := by
  have hrequested : "0x" ++ id = cloid := Oid.cloid.inj (h.requested "")
  have hok : Encoder.cancelOrder Encoder.plainLibrary ⟨0, 0, "", id⟩ ⟨0, 0⟩ 0 0 = .ok _ := rfl
  have hcancelled := h.cancelled _ _ _ _ _ _ rfl rfl hok
  rw [cancelledCloid?_of_ok rfl hok] at hcancelled
  rw [hrequested]
  exact Option.some.inj hcancelled

/-- An id that needs no filling up is the same on all paths. -/
theorem sameOnAllPaths_of_formatCloid_eq (h : Encoder.formatCloid id = "0x" ++ id) :
    SameOnAllPaths F id ("0x" ++ id) where
  created lib createOrder refData nowUtc expiresAfterUtc encoded hok := by
    obtain ⟨action, haction, hok⟩ := bind_eq_ok.mp hok
    rw [← Except.ok.inj hok, ← h]
    exact Encoder.createdText?_cloid haction
  cancelled lib order refData nowUtc expiresAfterUtc encoded hid hexternal hok := by
    rw [cancelledCloid?_of_ok hexternal hok, hid, h]
  requested _ := rfl
  readBack := getClientOrderId_append id

/-- An order has one client id exactly when its id has all 32 digits: `get_order_status` does
not fill it up, and `get_client_order_id` does not take the zeros off. -/
theorem hasOneCloid_iff (id : Encoder.HexId) :
    HasOneCloid F id.text ↔ id.text.toList.length = 32 := by
  constructor
  · rintro ⟨cloid, hsame⟩
    have hge := formatCloid_eq_iff.mp hsame.formatCloid_eq
    exact le_antisymm id.length_le hge
  · intro hlength
    exact ⟨_, sameOnAllPaths_of_formatCloid_eq (formatCloid_eq_iff.mpr hlength.ge)⟩

/-- The id 123, as an order test has it. -/
theorem not_hasOneCloid_short : ¬ HasOneCloid ℚ "123" := by
  rintro ⟨cloid, hsame⟩
  exact absurd hsame.formatCloid_eq (by decide)

end

end Hyperliquid.Gateway
