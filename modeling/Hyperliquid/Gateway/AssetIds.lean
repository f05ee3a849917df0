import Hyperliquid.Gateway.Rest.Meta
import Hyperliquid.Tools.Encoder
import Mathlib.Tactic.Linarith
import Mathlib.Tactic.NormNum

/-!
# Asset ids between publisher and encoder

The asset id of a perpetual is put together by `Rest` from a position in the `perpDexs`
reply and a position in the `meta` reply, and used by the order encoder: it sends the id,
and it reads from it whether the instrument is spot.
-/

namespace Hyperliquid.Gateway

open Hyperliquid.Base Hyperliquid.Oms Hyperliquid.Tools Hyperliquid.Gateway.Rest

/-- The id of item `k` of the exchange at position `i`: both parts are reduced to 32 bits. -/
def publishedId (i k : Nat) : Nat := (110000 * i + k) % 2 ^ 32

private theorem toUInt32_toUInt64_toInt64 (x : Int32) :
    x.toInt64.toUInt64.toUInt32 = x.toUInt32 := by
  apply UInt32.toBitVec_inj.mp
  ext i hi
  have hwide : i < 64 := by omega
  simp [BitVec.getElem_signExtend, hi, hwide]

private theorem toNat_toUInt32_assetId (i k : Nat) :
    (assetId (assetIdOffset i) k).toUInt32.toNat = publishedId i k := by
  have hoffset : (UInt64.toUInt32 offsetDex).toNat = 110000 := by decide
  rw [assetId, UInt64.toUInt32_add, toUInt32_toUInt64_toInt64, assetIdOffset, UInt32.toNat_add,
    UInt32.toUInt32_toInt32, UInt64.toUInt32_mul, UInt32.toNat_mul, hoffset, publishedId]
  simp only [UInt64.toUInt32_ofNat', UInt32.toNat_ofNat']
  omega

/-- A cast asset id is the published id. -/
theorem toNat_of_cast (safeCast : SafeCast) {i k : Nat} {id : UInt32}
    (h : safeCast.toUInt32 (assetId (assetIdOffset i) k) = .ok id) :
    id.toNat = publishedId i k := by
  have hid := safeCast.eq_of_ok h
  rw [← toNat_toUInt32_assetId, UInt64.toNat_toUInt32, ← hid]
  exact (Nat.mod_eq_of_lt id.toNat_lt).symm

section

variable {F : Type} [Double F] {env : MetaEnv}

/-- An item that `Rest` publishes: some `perpDexs` replies from the start of the session,
the index of a kept exchange, and a `meta` reply for it that publishes the item at a
position of its universe. -/
structure Publication (F : Type) [Double F] (env : MetaEnv) where
  replies : List (List GetPerpDexsAckItem)
  dex : List Dex
  dex_eq : perpDexsAcks env.settings [] replies = .ok dex
  index : Nat
  /-- The kept exchange, and its position in the reply. -/
  entry : GetPerpDexsAckItem × Nat
  entry_eq : (replies.flatMap (kept env.settings))[index]? = some entry
  items : List GetMetaAckUniverseItem
  allSymbols : List String
  k : Nat
  item : GetMetaAckUniverseItem
  item_eq : items[k]? = some item
  data : ReferenceData F
  data_eq : (metaAck env dex index items allSymbols).2.referenceData[k]? = some data

namespace Publication

/-- The position of the exchange in the reply that listed it. -/
def i (publication : Publication F env) : Nat := publication.entry.2

/-- Reference data for orders on the item: its published id and its size decimals. -/
def refData (publication : Publication F env) : RefData :=
  ⟨publication.data.externalSecurityId, publication.item.szDecimals.toNat⟩

/-- What `Rest` publishes follows from the two positions. -/
theorem toNat_externalSecurityId (publication : Publication F env) :
    publication.data.externalSecurityId.toNat = publishedId publication.i publication.k := by
  obtain ⟨dex, _, hdex, _, hdata⟩ := referenceData_metaAck env publication.data_eq
  rw [perpDexsAcks_eq_ok env.settings publication.dex_eq, List.nil_append, List.getElem?_map,
    publication.entry_eq] at hdex
  have hcast := externalSecurityId_of_ok env hdata
  rw [← Option.some.inj hdex] at hcast
  exact toNat_of_cast env.safeCast hcast

/-- For fixed replies: two configured exchanges beside the main one, and reference data for
an item with two size decimals. -/
def fixedEnv : MetaEnv := ⟨⟨"hyperliquid", ["a", "b"], false⟩, 1, fun _ ↦ false, .throwing⟩

/-- The reference data of the item `X`. -/
def fixedData (id : UInt32) : ReferenceData ℚ where
  streamId := 1
  exchange := "hyperliquid"
  symbol := "X"
  securityType := .swap
  externalSecurityId := id
  tickSize := Double.pow10 (-2)
  tickSizeSteps := TickSizeSteps.perps2
  tradeVolStepSize := Double.pow10 (-2)
  discard := false

/-- The first item of the exchange at position 1. -/
def second : Publication ℚ fixedEnv where
  replies := [[⟨""⟩, ⟨"a"⟩, ⟨"b"⟩]]
  dex := [⟨"", 0⟩, ⟨"a", 110000⟩, ⟨"b", 220000⟩]
  dex_eq := rfl
  index := 1
  entry := (⟨"a"⟩, 1)
  entry_eq := rfl
  items := [⟨"X", 2⟩]
  allSymbols := []
  k := 0
  item := ⟨"X", 2⟩
  item_eq := rfl
  data := fixedData 110000
  data_eq := rfl

/-- The first item of the exchange at position 2. -/
def third : Publication ℚ fixedEnv where
  replies := [[⟨""⟩, ⟨"a"⟩, ⟨"b"⟩]]
  dex := [⟨"", 0⟩, ⟨"a", 110000⟩, ⟨"b", 220000⟩]
  dex_eq := rfl
  index := 2
  entry := (⟨"b"⟩, 2)
  entry_eq := rfl
  items := [⟨"X", 2⟩]
  allSymbols := []
  k := 0
  item := ⟨"X", 2⟩
  item_eq := rfl
  data := fixedData 220000
  data_eq := rfl

end Publication

/-- The encoder handles orders on some reference data as orders on a perpetual: it rounds
the price with `is_spot = false`, and sends the price so rounded. -/
structure EncodedAsPerp (F : Type) [Double F] (refData : RefData) : Prop where
  isSpot : Encoder.isSpot refData = false
  price : ∀ (lib : Encoder.Library) (createOrder : CreateOrder F) requestId action,
    Encoder.createOrderAction lib createOrder refData requestId = .ok action →
      ∃ price, Conversions.floatToWire (Conversions.roundPrice createOrder.price
          refData.quantityDecimals false) = .ok price ∧
        Encoder.createdPrice? action = some (.string price)

/-- The encoder takes an id below 10000 for a perpetual, and no other. -/
theorem encodedAsPerp_iff_lt (refData : RefData) :
    EncodedAsPerp F refData ↔ refData.externalSecurityId.toNat < 10000 := by
  have hspot : Encoder.isSpot refData = false ↔ refData.externalSecurityId.toNat < 10000 := by
    rw [Encoder.isSpot, decide_eq_false_iff_not, UInt32.not_le, UInt32.lt_iff_toNat_lt]
    rfl
  constructor
  · intro hperp
    exact hspot.mp hperp.isSpot
  · intro hlt
    refine ⟨hspot.mpr hlt, ?_⟩
    intro lib createOrder requestId action haction
    obtain ⟨price, hprice, hsent⟩ := Encoder.createdPrice?_of_ok haction
    rw [hspot.mpr hlt] at hprice
    exact ⟨price, hprice, hsent⟩

/-- While the id fits in 32 bits, only the first 10000 items of the exchange at position 0
are encoded as perpetuals. -/
theorem encodedAsPerp_iff_main (publication : Publication F env)
    (hfits : 110000 * publication.i + publication.k < 2 ^ 32) :
    EncodedAsPerp F publication.refData ↔ publication.i = 0 ∧ publication.k < 10000 := by
  have hid : publication.refData.externalSecurityId.toNat =
      110000 * publication.i + publication.k := by
    rw [← Nat.mod_eq_of_lt hfits]
    exact publication.toNat_externalSecurityId
  rw [encodedAsPerp_iff_lt, hid]
  omega

/-- An order on a published perpetual is encoded as an order on a perpetual exactly when
the id that follows from its two positions is below 10000. -/
theorem encodedAsPerp_iff (publication : Publication F env) :
    EncodedAsPerp F publication.refData ↔
      (110000 * publication.i + publication.k) % 2 ^ 32 < 10000 := by
  have hid : publication.refData.externalSecurityId.toNat =
      (110000 * publication.i + publication.k) % 2 ^ 32 := publication.toNat_externalSecurityId
  rw [encodedAsPerp_iff_lt, hid]

/-- A buy order at a price with six decimals. -/
def buyOrder : CreateOrder ℚ where
  orderId := 1
  side := .buy
  orderType := .market
  timeInForce := .gtc
  quantity := 1
  price := 0.123456

/-- The first perpetual of the exchange at position 1 has the id 110000, and the price of
an order on it is rounded for a spot market: 0.12346 in place of 0.1235. -/
theorem not_encodedAsPerp_second :
    ¬ ∀ (env : MetaEnv) (publication : Publication ℚ env),
      EncodedAsPerp ℚ publication.refData := by
  intro h
  have hperp := h _ Publication.second
  have hspot : Conversions.floatToWire (Conversions.roundPrice buyOrder.price 2 true) =
      .ok "0.12346" := by decide +kernel
  have hnotSpot : Conversions.floatToWire (Conversions.roundPrice buyOrder.price 2 false) =
      .ok "0.1235" := by decide +kernel
  have hsize : Conversions.floatToWire (Conversions.roundSize buyOrder.quantity 2) =
      .ok "1" := by decide +kernel
  obtain ⟨action, haction⟩ : ∃ action, Encoder.createOrderAction
      ⟨fun _ ↦ .error "", "", fun _ ↦ ""⟩ buyOrder Publication.second.refData "1" = .ok action :=
    Encoder.createOrderAction_of_parts "1" rfl rfl hspot hsize
  obtain ⟨price, hprice, hsent⟩ := hperp.price _ _ _ _ haction
  obtain ⟨price', hprice', hsent'⟩ := Encoder.createdPrice?_of_ok haction
  have hsame : price = price' :=
    Json.string.inj (Option.some.inj (hsent.symm.trans hsent'))
  have hrounded : price = "0.1235" := Except.ok.inj (hprice.symm.trans hnotSpot)
  have hrounded' : price' = "0.12346" := Except.ok.inj (hprice'.symm.trans hspot)
  rw [hrounded, hrounded'] at hsame
  exact absurd hsame (by decide)

/-- The exchange's id of perpetual `k` of the exchange at position `i`. -/
def exchangeId (i k : Nat) : Nat := if i = 0 then k else 100000 + 10000 * i + k

/-- The published id is the exchange's only at the positions 0 and 1. -/
theorem publishedId_eq_exchangeId_iff (i k : Nat) :
    publishedId i k = exchangeId i k ↔ i ≤ 1 ∧ exchangeId i k < 2 ^ 32 := by
  unfold publishedId exchangeId
  cases i with
  | zero =>
    rw [if_pos rfl]
    omega
  | succ j =>
    rw [if_neg (Nat.succ_ne_zero j)]
    constructor
    · intro h
      have hlt : 100000 + 10000 * (j + 1) + k < 2 ^ 32 := by
        rw [← h]
        exact Nat.mod_lt _ (by omega)
      have hdiv := Nat.div_add_mod (110000 * (j + 1) + k) (2 ^ 32)
      rw [h] at hdiv
      generalize (110000 * (j + 1) + k) / 2 ^ 32 = q at hdiv
      -- a multiple of both `2 ^ 32` and 100000, and `j` is too small for any but zero
      have hexcess : 2 ^ 32 * q = 100000 * j := by linarith
      clear hdiv h
      exact ⟨by omega, hlt⟩
    · rintro ⟨hle, hlt⟩
      obtain rfl : j = 0 := by omega
      rw [Nat.mod_eq_of_lt (by omega)]

/-- Some published reference data, and the actions encoded with its id, identify a
perpetual by a number. -/
structure IdentifiedBy (data : ReferenceData F) (id : Nat) : Prop where
  published : data.externalSecurityId.toNat = id
  created : ∀ (lib : Encoder.Library) (createOrder : CreateOrder F) refData requestId action,
    refData.externalSecurityId = data.externalSecurityId →
      Encoder.createOrderAction lib createOrder refData requestId = .ok action →
        ∃ asset, Encoder.createdAsset? action = some (.unsigned asset) ∧ asset.toNat = id
  cancelled : ∀ (lib : Encoder.Library) order refData action,
    refData.externalSecurityId = data.externalSecurityId →
      Encoder.cancelOrderAction lib order refData = .ok action →
        ∃ asset, Encoder.cancelledAsset? action = some (.unsigned asset) ∧ asset.toNat = id

/-- Publisher and encoder use one id. -/
theorem identifiedBy_iff (data : ReferenceData F) (id : Nat) :
    IdentifiedBy data id ↔ data.externalSecurityId.toNat = id := by
  constructor
  · intro h
    exact h.published
  · intro hid
    refine ⟨hid, ?_, ?_⟩
    · intro lib createOrder refData requestId action hrefData haction
      refine ⟨refData.externalSecurityId.toUInt64, Encoder.createdAsset?_of_ok haction, ?_⟩
      rw [UInt32.toNat_toUInt64, hrefData, hid]
    · intro lib order refData action hrefData haction
      refine ⟨refData.externalSecurityId.toUInt64, Encoder.cancelledAsset?_of_ok haction, ?_⟩
      rw [UInt32.toNat_toUInt64, hrefData, hid]

/-- A published perpetual is identified by the exchange's id exactly when its exchange was
at position 0 or 1 of the reply that listed it, for ids of 32 bits. -/
theorem identifiedBy_exchangeId_iff (publication : Publication F env) :
    IdentifiedBy publication.data (exchangeId publication.i publication.k) ↔
      publication.i ≤ 1 ∧ exchangeId publication.i publication.k < 2 ^ 32 := by
  rw [identifiedBy_iff, publication.toNat_externalSecurityId, publishedId_eq_exchangeId_iff]

/-- The first perpetual of the exchange at position 2 is published as 220000; the exchange
knows it as 120000. -/
theorem not_identifiedBy_third :
    ¬ ∀ (env : MetaEnv) (publication : Publication ℚ env),
      IdentifiedBy publication.data (exchangeId publication.i publication.k) := by
  intro h
  have hpublished := (h _ Publication.third).published
  exact absurd hpublished (by decide)

end

end Hyperliquid.Gateway
