import Hyperliquid.Gateway.Rest.PerpDexs
import Hyperliquid.Tools.TickSizeSteps

/-!
# Reference data

The handler of a `meta` reply, `src/roq/hyperliquid/gateway/rest.cpp:471–538`: it
publishes the reference data of every item of the universe of one exchange.
-/

namespace Hyperliquid.Gateway.Rest

open Hyperliquid.Base Hyperliquid.Tools

/-- `protocol::json::GetMetaAckUniverseItem`, with the fields the handler reads. -/
structure GetMetaAckUniverseItem where
  name : String
  szDecimals : UInt32
  deriving DecidableEq, Repr

/-- `roq::SecurityType`. -/
inductive SecurityType where
  | undefined
  | spot
  | swap
  deriving DecidableEq, Repr

/-- `roq::ReferenceData`, with the fields the handler fills. -/
structure ReferenceData (F : Type) where
  streamId : UInt16
  exchange : String
  symbol : String
  securityType : SecurityType
  externalSecurityId : UInt32
  tickSize : F
  tickSizeSteps : List (TickSizeSteps.TickSizeStep F)
  tradeVolStepSize : F
  discard : Bool

/-- `utils::safe_cast` to an unsigned 32-bit number: a value that is cast is unchanged. -/
structure SafeCast where
  toUInt32 : UInt64 → Except (Failure String) UInt32
  eq_of_ok : ∀ {x y}, toUInt32 x = .ok y → y.toNat = x.toNat

/-- A cast that throws when the value does not fit. -/
def SafeCast.throwing : SafeCast where
  toUInt32 x := if x.toNat < 2 ^ 32 then .ok x.toUInt32 else .error (.thrown "overflow")
  eq_of_ok := by
    intro x y h
    by_cases hfits : x.toNat < 2 ^ 32
    · rw [if_pos hfits] at h
      rw [← Except.ok.inj h, UInt64.toNat_toUInt32]
      exact Nat.mod_eq_of_lt hfits
    · rw [if_neg hfits] at h
      cases h

/-- What the handler uses beside the reply. -/
structure MetaEnv where
  settings : Settings
  streamId : UInt16
  /-- `shared_.dispatcher.discard_symbol`. -/
  discardSymbol : String → Bool
  safeCast : SafeCast

/-- `dex.asset_id_offset + i`: the sum of a signed 32-bit number and a `size_t`. -/
def assetId (offset : Int32) (i : Nat) : UInt64 := offset.toInt64.toUInt64 + UInt64.ofNat i

/-- What the handler leaves behind: the reference data it dispatched, the shared set of
all symbols and the symbols of the update. -/
structure MetaRun (F : Type) where
  referenceData : List (ReferenceData F) := []
  allSymbols : List String
  symbols : List String := []

section

variable {F : Type} [Double F] (env : MetaEnv)

open Double in
/-- The reference data of the item at a position, `rest.cpp:479–521`. -/
def referenceData (dex : Dex) (i : Nat) (item : GetMetaAckUniverseItem) :
    Except (Failure String) (ReferenceData F) := do
  let discard := env.discardSymbol item.name
  let exchange := getExchangeFromCoin item.name env.settings
  let tickSize : F := pow10 (-(item.szDecimals.toNat : ℤ))
  let tickSizeSteps ← TickSizeSteps.get item.szDecimals.toInt32.toInt false
  let tradeVolStepSize : F := pow10 (-(item.szDecimals.toNat : ℤ))
  let externalSecurityId ← env.safeCast.toUInt32 (assetId dex.assetIdOffset i)
  pure
    { streamId := env.streamId
      exchange
      symbol := item.name
      securityType := .swap
      externalSecurityId
      tickSize
      tickSizeSteps
      tradeVolStepSize
      discard }

/-- What follows the dispatch of an item, `rest.cpp:521–529`. -/
def MetaRun.publish (run : MetaRun F) (data : ReferenceData F) : MetaRun F :=
  let run := { run with referenceData := run.referenceData ++ [data] }
  if data.discard then run
  -- only new symbols are part of the update
  else if run.allSymbols.contains data.symbol then run
  else
    { run with
      allSymbols := run.allSymbols ++ [data.symbol]
      symbols := run.symbols ++ [data.symbol] }

/-- The loop over the items, from a position on. An exception ends it and keeps what was
published before. -/
def publishAll (dex : Dex) : Nat → List GetMetaAckUniverseItem → MetaRun F →
    Except (Failure String) Unit × MetaRun F
  | _, [], run => (.ok (), run)
  | i, item :: items, run =>
    match referenceData env dex i item with
    | .ok data => publishAll dex (i + 1) items (run.publish data)
    | .error failure => (.error failure, run)

/-- The handler of `GetMetaAck`, `rest.cpp:471–538`, on the entry of `shared_.dex` at an
index. After a normal return `run.symbols` is dispatched as `SymbolsUpdate`. -/
def metaAck (dex : List Dex) (index : Nat) (items : List GetMetaAckUniverseItem)
    (allSymbols : List String) : Except (Failure String) Unit × MetaRun F :=
  match dex[index]? with
  | some dex => publishAll env dex 0 items { allSymbols }
  | none => (.error (.fatal "index < std::size(shared_.dex)"), { allSymbols })

omit [Double F] in
/-- Reference data is published after what was published before. -/
theorem referenceData_publish (run : MetaRun F) (data : ReferenceData F) :
    (run.publish data).referenceData = run.referenceData ++ [data] := by
  unfold MetaRun.publish
  dsimp only
  split_ifs <;> rfl

/-- What the loop publishes beyond the earlier items: for each position, in order, the
reference data of its item. -/
theorem referenceData_publishAll (dex : Dex) (i : Nat) (items : List GetMetaAckUniverseItem)
    (run : MetaRun F) :
    ∃ published, (publishAll env dex i items run).2.referenceData =
        run.referenceData ++ published ∧
      ∀ k data, published[k]? = some data → ∃ item, items[k]? = some item ∧
        referenceData env dex (i + k) item = .ok data := by
  induction items generalizing i run with
  | nil => exact ⟨[], by simp [publishAll], by simp⟩
  | cons item items ih =>
    rw [publishAll]
    cases hdata : (referenceData env dex i item : Except _ (ReferenceData F)) with
    | error failure => exact ⟨[], by simp, by simp⟩
    | ok data =>
      obtain ⟨published, hpublished, hitems⟩ := ih (i + 1) (run.publish data)
      refine ⟨data :: published, ?_, ?_⟩
      · rw [hpublished, referenceData_publish, List.append_assoc]
        rfl
      · intro k data' hk
        cases k with
        | zero =>
          rw [List.getElem?_cons_zero] at hk ⊢
          exact ⟨item, rfl, Option.some.inj hk ▸ hdata⟩
        | succ k =>
          rw [List.getElem?_cons_succ] at hk ⊢
          obtain ⟨item', hitem', hdata'⟩ := hitems k data' hk
          refine ⟨item', hitem', ?_⟩
          rwa [Nat.add_right_comm, Nat.add_assoc] at hdata'

/-- The reference data that a reply publishes at a position is that of its item. -/
theorem referenceData_metaAck {dexs : List Dex} {index : Nat}
    {items : List GetMetaAckUniverseItem} {allSymbols : List String} {k : Nat}
    {data : ReferenceData F}
    (h : (metaAck env dexs index items allSymbols).2.referenceData[k]? = some data) :
    ∃ dex item, dexs[index]? = some dex ∧ items[k]? = some item ∧
      referenceData env dex k item = .ok data := by
  unfold metaAck at h
  cases hdex : dexs[index]? with
  | none => simp [hdex] at h
  | some dex =>
    rw [hdex] at h
    obtain ⟨published, hpublished, hitems⟩ :=
      referenceData_publishAll env dex 0 items ({ allSymbols } : MetaRun F)
    rw [hpublished, List.nil_append] at h
    obtain ⟨item, hitem, hdata⟩ := hitems k data h
    rw [Nat.zero_add] at hdata
    exact ⟨dex, item, rfl, hitem, hdata⟩

/-- The reference data of an item carries the cast id of its position. -/
theorem externalSecurityId_of_ok {dex : Dex} {i : Nat} {item : GetMetaAckUniverseItem}
    {data : ReferenceData F} (h : referenceData env dex i item = .ok data) :
    env.safeCast.toUInt32 (assetId dex.assetIdOffset i) = .ok data.externalSecurityId := by
  obtain ⟨steps, _, h⟩ := bind_eq_ok.mp h
  obtain ⟨id, hid, h⟩ := bind_eq_ok.mp h
  rw [← Except.ok.inj h]
  exact hid

end

end Hyperliquid.Gateway.Rest
