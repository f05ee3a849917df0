import Hyperliquid.Base.JsonText
import Hyperliquid.Tools.Encoder
import Hyperliquid.Tools.FiniteRounding

/-!
# The texts of a created order

What `Encoder::create_order`, `src/roq/hyperliquid/tools/encoder.cpp:135–174`, puts into the
texts of its action: the price, the size, the client id and the time in force.
-/

namespace Hyperliquid.Tools.Encoder

open Hyperliquid.Base Hyperliquid.Oms

/-- `0x` and 32 hexadecimal digits. -/
def isCloid : List Char → Bool
  | '0' :: 'x' :: digits => digits.length = 32 && digits.all JsonText.isHexDigit
  | _ => false

/-- A request id as the order manager makes them: 1 to 32 hexadecimal digits. -/
structure HexId where
  text : String
  length_pos : 1 ≤ text.toList.length
  length_le : text.toList.length ≤ 32
  all_isHexDigit : text.toList.all JsonText.isHexDigit = true

/-- An id is filled up with zeros to a client id. -/
theorem isCloid_formatCloid (id : HexId) : isCloid (formatCloid id.text).toList = true := by
  have htext : (formatCloid id.text).toList = '0' :: 'x' :: id.text.toList.leftpad 32 '0' := by
    simp only [formatCloid, String.toList_append, String.toList_ofList]
    rfl
  have hlength : (id.text.toList.leftpad 32 '0').length = 32 := by
    rw [List.length_leftpad]
    have hle := id.length_le
    omega
  have hdigits : (id.text.toList.leftpad 32 '0').all JsonText.isHexDigit = true := by
    rw [List.leftpad, List.all_append, id.all_isHexDigit, Bool.and_true, List.all_eq_true]
    intro c hc
    rw [List.eq_of_mem_replicate hc]
    rfl
  rw [htext, isCloid, hlength, hdigits]
  rfl

/-- The text under a name of the order of an action. -/
def createdText? (name : String) (action : Json) : Option String :=
  match (createdOrder? action).bind fun order ↦ order.member? name with
  | some (.string text) => some text
  | _ => none

/-- The time in force of a limit order of an action. -/
def createdTif? (action : Json) : Option String :=
  match (((createdOrder? action).bind fun order ↦ order.member? "t").bind fun orderType ↦
    orderType.member? "limit").bind fun limit ↦ limit.member? "tif" with
  | some (.string text) => some text
  | _ => none

/-- The times in force that the exchange knows. -/
def tifs : List String := ["Alo", "Ioc", "Gtc"]

/-- An action with texts that the exchange can read. -/
structure WellFormed (orderType : Oms.OrderType) (action : Json) : Prop where
  price : ∃ text, createdText? "p" action = some text ∧
    Conversions.isNumeral text.toList = true
  size : ∃ text, createdText? "s" action = some text ∧ Conversions.isNumeral text.toList = true
  cloid : ∃ text, createdText? "c" action = some text ∧ isCloid text.toList = true
  tif : orderType = .limit → ∃ text ∈ tifs, createdTif? action = some text

section

variable {F : Type} [Double F]

/-- An action of `create_order` sends the filled-up id. -/
theorem createdText?_cloid {lib : Library} {createOrder : CreateOrder F} {refData : RefData}
    {requestId : String} {action : Json}
    (h : createOrderAction lib createOrder refData requestId = .ok action) :
    createdText? "c" action = some (formatCloid requestId) := by
  obtain ⟨_, _, _, _, _, _, _, _, horder⟩ := createOrderAction_eq_ok h
  rw [createdText?, horder]
  rfl

/-- The price that is put into an action. -/
def wirePrice (createOrder : CreateOrder F) (refData : RefData) : F :=
  Conversions.roundPrice createOrder.price refData.quantityDecimals (isSpot refData)

/-- The size that is put into an action. -/
def wireSize (createOrder : CreateOrder F) (refData : RefData) : F :=
  Conversions.roundSize createOrder.quantity refData.quantityDecimals

omit [Double F] in
/-- A limit order has a time in force that the exchange knows. -/
def HasTif (createOrder : CreateOrder F) : Prop :=
  createOrder.executionInstructions.participateDoNotInitiate = true ∨
    createOrder.timeInForce = .gtc ∨ createOrder.timeInForce = .ioc

omit [Double F] in
private theorem asRawText_mem_tifs_iff {lib : Library} (hraw : lib.undefinedRawText ∉ tifs)
    (createOrder : CreateOrder F) :
    lib.asRawText (if createOrder.executionInstructions.participateDoNotInitiate then .alo
        else mapTimeInForce createOrder.timeInForce) ∈ tifs ↔ HasTif createOrder := by
  unfold HasTif
  split
  · next halo => exact iff_of_true (by simp [tifs, Library.asRawText]) (Or.inl halo)
  · next halo =>
    cases createOrder.timeInForce with
    | gtc => exact iff_of_true (by simp [tifs, Library.asRawText, mapTimeInForce]) (by simp)
    | ioc => exact iff_of_true (by simp [tifs, Library.asRawText, mapTimeInForce]) (by simp)
    | _ => exact iff_of_false hraw (by simpa using halo)

omit [Double F] in
/-- A side is mapped. -/
theorem exists_isBuyHelper {side : Side} (h : side ≠ .undefined) :
    ∃ isBuy, isBuyHelper side = .ok isBuy := by
  cases side with
  | undefined => exact absurd rfl h
  | buy => exact ⟨true, rfl⟩
  | sell => exact ⟨false, rfl⟩

omit [Double F] in
/-- An order type is mapped. -/
theorem exists_orderTypeHelper2 (lib : Library) {createOrder : CreateOrder F}
    (h : createOrder.orderType ≠ .undefined) :
    ∃ orderType, orderTypeHelper2 lib createOrder = .ok orderType := by
  unfold orderTypeHelper2
  cases hcase : createOrder.orderType with
  | undefined => exact absurd hcase h
  | market => exact ⟨_, rfl⟩
  | limit => exact ⟨_, rfl⟩

end

section

variable {math : MathLibrary}

/-- What the guards of the encoder would have to let pass alone: a price and a quantity that are
rounded to finite numbers, and for a limit order a time in force that the exchange knows. -/
structure Encodable (createOrder : CreateOrder (Binary64 math)) (refData : RefData) : Prop where
  price : ∃ q, createOrder.price.value? = some q ∧
    Conversions.PriceInRange math refData.quantityDecimals (isSpot refData) q
  size : ∃ q, createOrder.quantity.value? = some q ∧
    Conversions.SizeInRange math refData.quantityDecimals q
  tif : createOrder.orderType = .limit → HasTif createOrder

variable {lib : Library} {createOrder : CreateOrder (Binary64 math)} {refData : RefData}
  {id : HexId} {action : Json}

section

variable (hraw : lib.undefinedRawText ∉ tifs) (hnonneg : 0 ≤ refData.quantityDecimals)
  (hbyte : refData.quantityDecimals ≤ 255)
include hraw hnonneg hbyte

/-- An action is well formed exactly when what it was made of is encodable. -/
theorem wellFormed_iff_encodable
    (h : createOrderAction lib createOrder refData id.text = .ok action) :
    WellFormed createOrder.orderType action ↔ Encodable createOrder refData := by
  obtain ⟨isBuy, orderType, price, size, _, horderType, hprice, hsize, horder⟩ :=
    createOrderAction_eq_ok h
  have hpriceText : createdText? "p" action = some price := by
    rw [createdText?, horder]
    rfl
  have hsizeText : createdText? "s" action = some size := by
    rw [createdText?, horder]
    rfl
  have htif : createOrder.orderType = .limit → createdTif? action = some (lib.asRawText
      (if createOrder.executionInstructions.participateDoNotInitiate then .alo
        else mapTimeInForce createOrder.timeInForce)) := by
    intro hlimit
    rw [orderTypeHelper2, hlimit] at horderType
    rw [createdTif?, horder, ← Except.ok.inj horderType]
    rfl
  have hpriceIff := (Conversions.isNumeral_floatToWire_iff hprice).trans
    (Conversions.isFinite_roundPrice_iff hnonneg hbyte)
  have hsizeIff := (Conversions.isNumeral_floatToWire_iff hsize).trans
    (Conversions.isFinite_roundSize_iff hnonneg (by omega))
  constructor
  · intro hwell
    refine ⟨?_, ?_, ?_⟩
    · obtain ⟨text, htext, hnumeral⟩ := hwell.price
      obtain rfl : price = text := Option.some.inj (hpriceText.symm.trans htext)
      exact hpriceIff.mp hnumeral
    · obtain ⟨text, htext, hnumeral⟩ := hwell.size
      obtain rfl : size = text := Option.some.inj (hsizeText.symm.trans htext)
      exact hsizeIff.mp hnumeral
    · intro hlimit
      obtain ⟨text, hmem, htext⟩ := hwell.tif hlimit
      rw [htif hlimit] at htext
      rw [← asRawText_mem_tifs_iff hraw, Option.some.inj htext]
      exact hmem
  · intro hencodable
    refine ⟨?_, ?_, ?_, ?_⟩
    · exact ⟨price, hpriceText, hpriceIff.mpr hencodable.price⟩
    · exact ⟨size, hsizeText, hsizeIff.mpr hencodable.size⟩
    · exact ⟨_, createdText?_cloid h, isCloid_formatCloid id⟩
    · intro hlimit
      exact ⟨_, (asRawText_mem_tifs_iff hraw createOrder).mpr (hencodable.tif hlimit),
        htif hlimit⟩

end

variable (lib createOrder refData id) in
/-- The encoder fails or returns a well-formed action. -/
def Safe : Prop :=
  ∀ nowUtc expiresAfterUtc encoded,
    Encoder.createOrder lib createOrder refData id.text nowUtc expiresAfterUtc = .ok encoded →
      WellFormed createOrder.orderType encoded.action

/-- The outcome depends on the action alone. -/
theorem safe_iff_action : Safe lib createOrder refData id ↔
    ∀ action, createOrderAction lib createOrder refData id.text = .ok action →
      WellFormed createOrder.orderType action := by
  unfold Safe Encoder.createOrder
  constructor
  · intro hsafe action haction
    rw [haction] at hsafe
    exact hsafe 0 0 _ rfl
  · intro hwell nowUtc expiresAfterUtc encoded hencoded
    cases haction : createOrderAction lib createOrder refData id.text with
    | error failure =>
      rw [haction] at hencoded
      cases hencoded
    | ok action =>
      rw [haction] at hencoded
      rw [← Except.ok.inj hencoded]
      exact hwell action haction

/-- With no more decimals of the size than the market has decimals, the encoder makes an action
of every order: no rounded number fails the check of `floatToWire`. -/
theorem exists_createOrderAction (lib : Library) (id : HexId)
    (hnonneg : 0 ≤ refData.quantityDecimals)
    (hle : refData.quantityDecimals ≤ Conversions.maxDecimals (isSpot refData))
    (hside : createOrder.side ≠ .undefined) (htype : createOrder.orderType ≠ .undefined) :
    ∃ action, createOrderAction lib createOrder refData id.text = .ok action := by
  obtain ⟨isBuy, hisBuy⟩ := exists_isBuyHelper hside
  obtain ⟨orderType, horderType⟩ := exists_orderTypeHelper2 lib htype
  have hmax := Conversions.maxDecimals_le (isSpot refData)
  have hprice := Conversions.causesRounding_eq_false
    (Conversions.stod_fixed8_roundPrice hnonneg hle createOrder.price)
  have hsize := Conversions.causesRounding_eq_false
    (Conversions.stod_fixed8_roundSize hnonneg (by omega) createOrder.quantity)
  obtain ⟨action, haction⟩ := createOrderAction_of_parts id.text hisBuy horderType
    (Conversions.floatToWire_eq_ok hprice) (Conversions.floatToWire_eq_ok hsize)
  exact ⟨action, haction⟩

section

variable (hraw : lib.undefinedRawText ∉ tifs) (hside : createOrder.side ≠ .undefined)
  (htype : createOrder.orderType ≠ .undefined) (hnonneg : 0 ≤ refData.quantityDecimals)
include hraw hside htype hnonneg

/-- The encoder is safe on an order exactly when the order is encodable. -/
theorem safe_iff_encodable
    (hle : refData.quantityDecimals ≤ Conversions.maxDecimals (isSpot refData)) :
    Safe lib createOrder refData id ↔ Encodable createOrder refData := by
  have hmax := Conversions.maxDecimals_le (isSpot refData)
  obtain ⟨action, haction⟩ := exists_createOrderAction lib id hnonneg hle hside htype
  rw [safe_iff_action, ← wellFormed_iff_encodable hraw hnonneg (by omega) haction]
  constructor
  · intro hsafe
    exact hsafe action haction
  · intro hwell other hother
    rw [haction] at hother
    rwa [← Except.ok.inj hother]

/-- The encoder is safe on every encodable order, and with the decimals of a market on no other:
no guard asks for finite numbers or a known time in force. -/
theorem safe_iff (hbyte : refData.quantityDecimals ≤ 255) :
    (Encodable createOrder refData → Safe lib createOrder refData id) ∧
      (refData.quantityDecimals ≤ Conversions.maxDecimals (isSpot refData) →
        (Safe lib createOrder refData id ↔ Encodable createOrder refData)) := by
  refine ⟨?_, safe_iff_encodable hraw hside htype hnonneg⟩
  intro hencodable
  rw [safe_iff_action]
  intro action haction
  exact (wellFormed_iff_encodable hraw hnonneg hbyte haction).mpr hencodable

end

end

/-! ## Concrete orders -/

/-- A library that reads no numbers. -/
def plainLibrary : Library where
  fromChars _ := .error "not a number"
  undefinedRawText := "UNDEFINED_INTERNAL"
  dump _ := ""

def perpRefData : RefData where
  externalSecurityId := 0
  quantityDecimals := 2

def oneId : HexId where
  text := "1"
  length_pos := by decide
  length_le := by decide
  all_isHexDigit := by decide

/-- An order to buy. -/
def orderOf (orderType : Oms.OrderType) (timeInForce : TimeInForce)
    (quantity price : Binary64 .exact) : CreateOrder (Binary64 .exact) where
  orderId := 1
  side := .buy
  orderType
  timeInForce
  quantity
  price

/-- Its raw text of an undefined time in force is not one of the exchange. -/
theorem undefinedRawText_plainLibrary : plainLibrary.undefinedRawText ∉ tifs := by decide

/-- A limit order for one unit that rests until it is cancelled. -/
theorem safe_iff_resting :
    Safe plainLibrary (orderOf .limit .gtc (Double.lit 1) (Double.lit 1)) perpRefData oneId :=
  (safe_iff undefinedRawText_plainLibrary (by decide) (by decide) (by decide) (by decide)).1
    ⟨⟨1, by decide +kernel, by decide +kernel⟩, ⟨1, by decide +kernel, by decide +kernel⟩,
      fun _ ↦ .inr (.inl rfl)⟩

/-- A market order at a NaN is sent, as are a quantity that overflows, a price that is divided by
a scale of zero, and a limit order that is good for the day. -/
theorem not_safe :
    ¬ Safe plainLibrary (orderOf .market .gtc (Double.lit 1) (.nan false)) perpRefData oneId ∧
      ¬ Safe plainLibrary (orderOf .market .gtc (Double.lit (10 ^ 307)) (Double.lit 1))
        perpRefData oneId ∧
      ¬ Safe plainLibrary (orderOf .market .gtc (Double.lit 1) (Double.lit (1 / 10 ^ 320)))
        perpRefData oneId ∧
      ¬ Safe plainLibrary (orderOf .limit .gfd (Double.lit 1) (Double.lit 1)) perpRefData
        oneId := by
  have hnot : ∀ {createOrder : CreateOrder (Binary64 .exact)},
      createOrder.side ≠ .undefined → createOrder.orderType ≠ .undefined →
      ¬ Encodable createOrder perpRefData → ¬ Safe plainLibrary createOrder perpRefData oneId :=
    fun hside htype hnot hsafe ↦ hnot
      ((safe_iff_encodable undefinedRawText_plainLibrary hside htype (by decide)
        (by decide)).mp hsafe)
  refine ⟨hnot (by decide) (by decide) ?_, hnot (by decide) (by decide) ?_,
    hnot (by decide) (by decide) ?_, hnot (by decide) (by decide) ?_⟩
  · rintro ⟨⟨q, hvalue, _⟩, _, _⟩
    cases hvalue
  · rintro ⟨_, ⟨q, hvalue, hrange⟩, _⟩
    have hlit := Binary64.value?_lit .exact (q := 10 ^ 307) (by norm_num) (by decide +kernel)
    obtain rfl := Option.some.inj (hlit.symm.trans hvalue)
    exact absurd hrange (by decide +kernel)
  · rintro ⟨⟨q, hvalue, hrange⟩, _, _⟩
    have hlit := Binary64.value?_lit .exact (q := 1 / 10 ^ 320) (by norm_num)
      (by decide +kernel)
    obtain rfl := Option.some.inj (hlit.symm.trans hvalue)
    exact absurd hrange (by decide +kernel)
  · rintro ⟨_, _, htif⟩
    rcases htif rfl with halo | hgtc | hioc
    · cases halo
    · cases hgtc
    · cases hioc

end Hyperliquid.Tools.Encoder
