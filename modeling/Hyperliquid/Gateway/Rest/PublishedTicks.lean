import Hyperliquid.Gateway.Rest.Meta
import Hyperliquid.Tools.PriceGrid

/-!
# Published tick sizes

The tick size that the handler of a `meta` reply puts into the reference data of an item,
`src/roq/hyperliquid/gateway/rest.cpp:479–521`, against the prices of the order encoder.
-/

namespace Hyperliquid.Gateway.Rest

open Hyperliquid.Base Hyperliquid.Tools

/-- A signed 32-bit number that is not negative was not wrapped. -/
theorem toInt_toInt32_of_nonneg {x : UInt32} (h : 0 ≤ x.toInt32.toInt) :
    x.toInt32.toInt = x.toNat := by
  change 0 ≤ x.toBitVec.toInt at h
  change x.toBitVec.toInt = x.toBitVec.toNat
  rw [BitVec.toInt_eq_toNat_cond] at h ⊢
  have hlt := x.toBitVec.isLt
  split at h <;> omega

variable {env : MetaEnv} {dex : Dex} {i : Nat} {item : GetMetaAckUniverseItem}
  {data : ReferenceData ℚ}

/-- The published tick size is that of the last size decimal, of at most five. -/
theorem tickSize_of_ok (h : referenceData env dex i item = .ok data) :
    data.tickSize = 10 ^ (-(item.szDecimals.toNat : ℤ)) ∧ item.szDecimals.toNat < 6 := by
  obtain ⟨steps, hsteps, h⟩ := bind_eq_ok.mp h
  obtain ⟨id, _, h⟩ := bind_eq_ok.mp h
  obtain ⟨_, hnonneg, hlt⟩ := TickSizeSteps.get_eq_ok hsteps
  rw [toInt_toInt32_of_nonneg hnonneg] at hlt
  constructor
  · rw [← Except.ok.inj h]
    rfl
  · change (item.szDecimals.toNat : ℤ) < 6 at hlt
    omega

/-- The published tick size of an item divides every price that the encoder can round to
exactly when the item has three size decimals or more: prices have six decimals less those. -/
theorem roundPrice_mem_tickSize_iff {dexs : List Dex} {index : Nat}
    {items : List GetMetaAckUniverseItem} {allSymbols : List String} {k : Nat}
    (hdata : (metaAck env dexs index items allSymbols).2.referenceData[k]? = some data)
    (hitem : items[k]? = some item) :
    (∀ price : ℚ, 0 ≤ price → Conversions.roundPrice price item.szDecimals.toNat false ∈
        AddSubgroup.zmultiples data.tickSize) ↔ 3 ≤ item.szDecimals.toNat := by
  obtain ⟨dex, item', _, hitem', hok⟩ := referenceData_metaAck env hdata
  obtain rfl : item = item' := Option.some.inj (hitem.symm.trans hitem')
  obtain ⟨htick, hlt⟩ := tickSize_of_ok hok
  have hsz : (item.szDecimals.toNat : ℤ) ≤ Conversions.maxDecimals false := by
    change (item.szDecimals.toNat : ℤ) ≤ 6
    omega
  have hiff := Conversions.forall_roundPrice_mem_iff hsz (e := -item.szDecimals.toNat)
  rw [Grid] at hiff
  rw [htick]
  refine hiff.trans ?_
  change -(item.szDecimals.toNat : ℤ) ≤ item.szDecimals.toNat - 6 ↔ _
  omega

/-- An environment that keeps every symbol. -/
def keepingEnv : MetaEnv := ⟨⟨"hyperliquid", [], false⟩, 1, fun _ ↦ false, .throwing⟩

/-- The reference data of the first item of the main exchange. -/
def firstData (szDecimals : ℤ) (tickSizeSteps : List (TickSizeSteps.TickSizeStep ℚ)) :
    ReferenceData ℚ where
  streamId := 1
  exchange := "hyperliquid"
  symbol := "X"
  securityType := .swap
  externalSecurityId := 0
  tickSize := Double.pow10 (-szDecimals)
  tickSizeSteps
  tradeVolStepSize := Double.pow10 (-szDecimals)
  discard := false

/-- The first item of a reply, with some size decimals. -/
def firstReply (szDecimals : UInt32) : Except (Failure String) Unit × MetaRun ℚ :=
  metaAck keepingEnv [⟨"", 0⟩] 0 [⟨"X", szDecimals⟩] []

private theorem referenceData_firstReply_three :
    (firstReply 3).2.referenceData[0]? = some (firstData 3 TickSizeSteps.perps3) := rfl

private theorem referenceData_firstReply_zero :
    (firstReply 0).2.referenceData[0]? = some (firstData 0 TickSizeSteps.perps0) := rfl

/-- Three size decimals leave three for the price. -/
theorem roundPrice_mem_tickSize_three :
    Conversions.roundPrice (1 / 1000) 3 false ∈
      AddSubgroup.zmultiples (firstData 3 TickSizeSteps.perps3).tickSize :=
  (roundPrice_mem_tickSize_iff referenceData_firstReply_three rfl).mpr (by decide) (1 / 1000)
    (by norm_num)

/-- No size decimals leave six: the price 0.5 is kept, and the published tick size is 1. -/
theorem roundPrice_not_mem_tickSize_zero :
    (firstReply 0).2.referenceData[0]? = some (firstData 0 TickSizeSteps.perps0) ∧
      Conversions.roundPrice (1 / 2) 0 false ∉
        AddSubgroup.zmultiples (firstData 0 TickSizeSteps.perps0).tickSize := by
  refine ⟨referenceData_firstReply_zero, ?_⟩
  change Conversions.roundPrice (1 / 2) 0 false ∉ Grid 10 0
  decide +kernel

end Hyperliquid.Gateway.Rest
