import Hyperliquid.Oms.Types
import Mathlib.Algebra.Group.Nat.Defs

/-!
# Request ids of the WebSocket transport

`src/roq/hyperliquid/gateway/web_socket.cpp:92–104`: the type, the user and the order of
a request packed into one word, which the exchange echoes as a signed number.
-/

namespace Hyperliquid.Gateway

open Hyperliquid.Oms

/-- The constants of the trading API that enter a request id: the underlying byte of
each request type, and `ORDER_ID_MAX`, all ones in its low bits. -/
structure RequestIds where
  code : RequestType → UInt8
  ofCode : UInt8 → RequestType
  ofCode_code : ∀ requestType, ofCode (code requestType) = requestType
  code_lt : ∀ requestType, (code requestType).toNat < 128
  orderIdBits : Nat
  orderIdBits_le : orderIdBits ≤ 48

namespace RequestIds

/-- The request types numbered as listed, with 48 bits of order id. -/
def sequential : RequestIds where
  code
    | .undefined => 0
    | .createOrder => 1
    | .modifyOrder => 2
    | .cancelOrder => 3
  ofCode byte :=
    if byte = 1 then .createOrder
    else if byte = 2 then .modifyOrder
    else if byte = 3 then .cancelOrder
    else .undefined
  ofCode_code requestType := by cases requestType <;> rfl
  code_lt requestType := by cases requestType <;> decide
  orderIdBits := 48
  orderIdBits_le := Nat.le_refl 48

variable (ids : RequestIds)

/-- `ORDER_ID_MAX`. -/
def orderIdMax : UInt64 := UInt64.ofNat (2 ^ ids.orderIdBits - 1)

/-- `encode_request_id`, `web_socket.cpp:92–97`; its assertions are preconditions. -/
def encodeRequestId (requestType : RequestType) (userId : UInt8) (orderId : UInt64) : UInt64 :=
  ((ids.code requestType).toUInt64 <<< 56) ||| (userId.toUInt64 <<< 48) ||| orderId

/-- `decode_request_id`, `web_socket.cpp:99–104`. -/
def decodeRequestId (requestId : UInt64) : RequestType × UInt8 × UInt64 :=
  (ids.ofCode (requestId >>> 56).toUInt8, (requestId >>> 48).toUInt8,
    requestId &&& ids.orderIdMax)

/-- The id as the reply types hold it, a signed number. -/
def echo (requestId : UInt64) : Int64 := requestId.toInt64

private theorem toNat_orderIdMax : ids.orderIdMax.toNat = 2 ^ ids.orderIdBits - 1 := by
  have hle : 2 ^ ids.orderIdBits ≤ 2 ^ 48 := Nat.pow_le_pow_right (by omega) ids.orderIdBits_le
  rw [orderIdMax, UInt64.toNat_ofNat']
  exact Nat.mod_eq_of_lt (by omega)

private theorem orderId_lt {orderId : UInt64} (h : orderId ≤ ids.orderIdMax) :
    orderId.toNat < 2 ^ ids.orderIdBits := by
  have hle := UInt64.le_iff_toNat_le.mp h
  rw [toNat_orderIdMax] at hle
  have hpos := Nat.two_pow_pos ids.orderIdBits
  omega

/-- `encode_request_id` of the underlying byte of a request type. -/
def packRequestId (code userId : UInt8) (orderId : UInt64) : UInt64 :=
  (code.toUInt64 <<< 56) ||| (userId.toUInt64 <<< 48) ||| orderId

/-- `decode_request_id` before the byte is taken for a request type. -/
def unpackRequestId (requestId : UInt64) : UInt8 × UInt8 × UInt64 :=
  ((requestId >>> 56).toUInt8, (requestId >>> 48).toUInt8, requestId &&& ids.orderIdMax)

/-- The three fields occupy disjoint bits. -/
theorem toNat_packRequestId (code userId : UInt8) {orderId : UInt64}
    (h : orderId ≤ ids.orderIdMax) :
    (packRequestId code userId orderId).toNat =
      code.toNat * 2 ^ 56 + userId.toNat * 2 ^ 48 + orderId.toNat := by
  have hcode : code.toNat < 256 := code.toNat_lt
  have huser : userId.toNat < 256 := userId.toNat_lt
  have horder : orderId.toNat < 2 ^ 48 :=
    Nat.lt_of_lt_of_le (ids.orderId_lt h) (Nat.pow_le_pow_right (by omega) ids.orderIdBits_le)
  have hshiftCode : (code.toUInt64 <<< 56).toNat = code.toNat <<< 56 := by
    rw [UInt64.toNat_shiftLeft, UInt8.toNat_toUInt64]
    change (code.toNat <<< 56) % 2 ^ 64 = _
    rw [Nat.shiftLeft_eq]
    omega
  have hshiftUser : (userId.toUInt64 <<< 48).toNat = userId.toNat <<< 48 := by
    rw [UInt64.toNat_shiftLeft, UInt8.toNat_toUInt64]
    change (userId.toNat <<< 48) % 2 ^ 64 = _
    rw [Nat.shiftLeft_eq]
    omega
  have hlow : userId.toNat <<< 48 ||| orderId.toNat = userId.toNat * 2 ^ 48 + orderId.toNat := by
    rw [← Nat.shiftLeft_add_eq_or_of_lt horder, Nat.shiftLeft_eq]
  rw [packRequestId, UInt64.toNat_or, UInt64.toNat_or, hshiftCode, hshiftUser, Nat.or_assoc,
    hlow, ← Nat.shiftLeft_add_eq_or_of_lt (by omega), Nat.shiftLeft_eq]
  omega

/-- An id that is taken apart gives back the fields it was made of. -/
theorem unpackRequestId_packRequestId (code userId : UInt8) {orderId : UInt64}
    (h : orderId ≤ ids.orderIdMax) :
    ids.unpackRequestId (packRequestId code userId orderId) = (code, userId, orderId) := by
  have hnat := ids.toNat_packRequestId code userId h
  have hcode : code.toNat < 256 := code.toNat_lt
  have huser : userId.toNat < 256 := userId.toNat_lt
  have horder := ids.orderId_lt h
  have horder48 : orderId.toNat < 2 ^ 48 :=
    Nat.lt_of_lt_of_le horder (Nat.pow_le_pow_right (by omega) ids.orderIdBits_le)
  have htype : (packRequestId code userId orderId >>> 56).toUInt8 = code := by
    apply UInt8.toNat_inj.mp
    rw [UInt64.toNat_toUInt8, UInt64.toNat_shiftRight, hnat, Nat.shiftRight_eq_div_pow]
    change _ / 2 ^ 56 % 2 ^ 8 = _
    omega
  have huserId : (packRequestId code userId orderId >>> 48).toUInt8 = userId := by
    apply UInt8.toNat_inj.mp
    rw [UInt64.toNat_toUInt8, UInt64.toNat_shiftRight, hnat, Nat.shiftRight_eq_div_pow]
    change _ / 2 ^ 48 % 2 ^ 8 = _
    omega
  have horderId : packRequestId code userId orderId &&& ids.orderIdMax = orderId := by
    apply UInt64.toNat_inj.mp
    have hbits : ids.orderIdBits ≤ 56 := Nat.le_trans ids.orderIdBits_le (by omega)
    have hdvd : 2 ^ ids.orderIdBits ∣ code.toNat * 2 ^ 56 + userId.toNat * 2 ^ 48 := by
      apply Nat.dvd_add
      · exact Nat.dvd_mul_left_of_dvd (Nat.pow_dvd_pow 2 hbits) _
      · exact Nat.dvd_mul_left_of_dvd (Nat.pow_dvd_pow 2 ids.orderIdBits_le) _
    rw [UInt64.toNat_and, toNat_orderIdMax, Nat.and_two_pow_sub_one_eq_mod, hnat,
      Nat.add_mod, Nat.mod_eq_zero_of_dvd hdvd, Nat.zero_add, Nat.mod_mod,
      Nat.mod_eq_of_lt horder]
  rw [unpackRequestId, htype, huserId, horderId]

/-- A decoded id gives back the fields it was made of. -/
theorem decodeRequestId_encodeRequestId (requestType : RequestType) (userId : UInt8)
    (orderId : UInt64) (h : orderId ≤ ids.orderIdMax) :
    ids.decodeRequestId (ids.encodeRequestId requestType userId orderId) =
      (requestType, userId, orderId) := by
  have hunpack := ids.unpackRequestId_packRequestId (ids.code requestType) userId h
  show (ids.ofCode (ids.unpackRequestId (packRequestId _ _ _)).1,
    (ids.unpackRequestId (packRequestId _ _ _)).2) = _
  rw [hunpack, ids.ofCode_code]

/-- The signed echo of an id is the same word. -/
theorem toUInt64_echo (requestId : UInt64) : (echo requestId).toUInt64 = requestId := rfl

/-- The id of a request type below 128 is the same number when it is signed. -/
theorem toInt_echo_packRequestId {code : UInt8} (hcode : code.toNat < 128) (userId : UInt8)
    {orderId : UInt64} (h : orderId ≤ ids.orderIdMax) :
    (echo (packRequestId code userId orderId)).toInt =
      ((packRequestId code userId orderId).toNat : Int) := by
  have hnat := ids.toNat_packRequestId code userId h
  have huser : userId.toNat < 256 := userId.toNat_lt
  have horder : orderId.toNat < 2 ^ 48 :=
    Nat.lt_of_lt_of_le (ids.orderId_lt h) (Nat.pow_le_pow_right (by omega) ids.orderIdBits_le)
  apply BitVec.toInt_eq_toNat_of_lt
  show 2 * (packRequestId code userId orderId).toNat < 2 ^ 64
  omega

/-- What an id is made of comes back from its signed echo, which is the same number; for any
byte below 128 and for the request types. -/
structure GivesBack : Prop where
  byte : ∀ (code userId : UInt8) (orderId : UInt64), code.toNat < 128 → orderId ≤ ids.orderIdMax →
    (echo (packRequestId code userId orderId)).toInt = (packRequestId code userId orderId).toNat ∧
      ids.unpackRequestId (echo (packRequestId code userId orderId)).toUInt64 =
        (code, userId, orderId)
  requestType : ∀ (requestType : RequestType) (userId : UInt8) (orderId : UInt64),
    orderId ≤ ids.orderIdMax →
      ids.decodeRequestId (echo (ids.encodeRequestId requestType userId orderId)).toUInt64 =
        (requestType, userId, orderId)

/-- An identifier gives back the three parts that it has been packed from. -/
theorem givesBack : ids.GivesBack where
  byte code userId _ hcode h :=
    ⟨ids.toInt_echo_packRequestId hcode userId h, ids.unpackRequestId_packRequestId code userId h⟩
  requestType := ids.decodeRequestId_encodeRequestId

end RequestIds
end Hyperliquid.Gateway
