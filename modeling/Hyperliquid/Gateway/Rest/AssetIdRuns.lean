import Hyperliquid.Gateway.AssetIds

/-!
# Asset ids over a session

What `Rest` publishes as `external_security_id` over all replies of a session,
`src/roq/hyperliquid/gateway/rest.cpp:382–412, 471–538`: the list of dexes keeps the entries of
earlier replies, and only entries of the same name are compared.
-/

namespace Hyperliquid.Gateway.Rest

open Hyperliquid.Base Hyperliquid.Tools

/-- A reply of a session, as its handler gets it. -/
inductive Handled where
  | perpDexs (reply : List GetPerpDexsAckItem)
  | metas (index : Nat) (items : List GetMetaAckUniverseItem)

/-- The list of a `perpDexs` reply. -/
def Handled.dexs? : Handled → Option (List GetPerpDexsAckItem)
  | .perpDexs reply => some reply
  | .metas _ _ => none

/-- The universe of a `meta` reply is within the ids of a dex. -/
def Handled.Fits : Handled → Prop
  | .perpDexs _ => True
  | .metas _ items => items.length ≤ 110000

/-- The items of all `perpDexs` replies that the settings keep, with their positions. -/
def keptOf (settings : Settings) (replies : List Handled) : List (GetPerpDexsAckItem × Nat) :=
  (replies.filterMap Handled.dexs?).flatMap (kept settings)

/-- No two names that are kept have been at one position. -/
def OneNamePerPosition (entries : List (GetPerpDexsAckItem × Nat)) : Prop :=
  ∀ first ∈ entries, ∀ second ∈ entries, first.2 = second.2 → first.1.name = second.1.name

/-- A `ReferenceData` event: the name of the dex, the position in the universe, the data. -/
structure Published (F : Type) where
  name : String
  position : Nat
  data : ReferenceData F

/-- What should hold of the events of a session. -/
structure Identified {F : Type} (published : List (Published F)) : Prop where
  stable : ∀ first ∈ published, ∀ second ∈ published, first.name = second.name →
    first.position = second.position →
      first.data.externalSecurityId = second.data.externalSecurityId
  unambiguous : ∀ first ∈ published, ∀ second ∈ published,
    first.data.externalSecurityId = second.data.externalSecurityId →
      first.name = second.name ∧ first.position = second.position

/-- What the replies of a session leave. -/
structure Listing (F : Type) where
  /-- `shared_.dex` -/
  dex : List Dex
  /-- `shared_.all_symbols` -/
  allSymbols : List String
  published : List (Published F)

namespace Listing

variable {F : Type}

/-- The state before any reply. -/
def new (F : Type) : Listing F := ⟨[], [], []⟩

/-- The events of a `meta` reply for a dex: the data of its items, in order. -/
def publishedOf (name : String) (data : List (ReferenceData F)) : List (Published F) :=
  data.zipIdx.map fun entry ↦ ⟨name, entry.2, entry.1⟩

/-- Handles a reply. What a handler throws is caught in `process_response`, and what it has
published stays. -/
def handle [Double F] (env : MetaEnv) (listing : Listing F) :
    Handled → Except (Failure String) (Listing F)
  | .perpDexs reply => do
    let dex ← perpDexsAck env.settings listing.dex reply
    pure { listing with dex }
  | .metas index items =>
    let (result, run) := metaAck env listing.dex index items listing.allSymbols
    match listing.dex[index]?, result with
    | some _, .error (.fatal text) => .error (.fatal text)
    | some dex, _ =>
      pure { listing with
        allSymbols := run.allSymbols
        published := listing.published ++ publishedOf dex.name run.referenceData }
    | none, _ => .error (.fatal "index < std::size(shared_.dex)")

/-! ## Events and entries -/

section

variable {env : MetaEnv} {entries : List (GetPerpDexsAckItem × Nat)}

/-- An event of an entry of the list: its id is that of the entry and the position. -/
def Justified (env : MetaEnv) (dex : List Dex) (event : Published F) : Prop :=
  ∃ item ∈ dex, item.name = event.name ∧ event.position < 110000 ∧
    env.safeCast.toUInt32 (assetId item.assetIdOffset event.position) =
      .ok event.data.externalSecurityId

/-- The invariant of a session. -/
structure Inv (env : MetaEnv) (listing : Listing F) : Prop where
  sameOffsets : SameOffsets listing.dex
  justified : ∀ event ∈ listing.published, Justified env listing.dex event

/-- The invariant holds before anything is listed. -/
theorem inv_new : Inv env (new F) :=
  ⟨fun _ h ↦ absurd h List.not_mem_nil, fun _ h ↦ absurd h List.not_mem_nil⟩

/-- Equal names and positions have equal ids. -/
theorem Inv.stable {listing : Listing F} (h : Inv env listing) {first second : Published F}
    (hfirst : first ∈ listing.published) (hsecond : second ∈ listing.published)
    (hname : first.name = second.name) (hposition : first.position = second.position) :
    first.data.externalSecurityId = second.data.externalSecurityId := by
  obtain ⟨item, hitem, hitemName, _, hid⟩ := h.justified first hfirst
  obtain ⟨item', hitem', hitemName', _, hid'⟩ := h.justified second hsecond
  have hoffset := h.sameOffsets item hitem item' hitem'
    (hitemName.trans (hname.trans hitemName'.symm))
  rw [hoffset, hposition, hid'] at hid
  exact (Except.ok.inj hid).symm

/-- While the offset fits, the id of an event follows from the position of its dex in a reply and
that of its item. -/
theorem exists_entry_of_justified (hoffsets : ∀ entry ∈ entries, 110000 * entry.2 < 2 ^ 31)
    {event : Published F} (h : Justified env (entries.map dexOf) event) :
    ∃ entry ∈ entries, entry.1.name = event.name ∧ event.position < 110000 ∧
      event.data.externalSecurityId.toNat = 110000 * entry.2 + event.position := by
  obtain ⟨item, hitem, hname, hposition, hcast⟩ := h
  obtain ⟨entry, hentry, rfl⟩ := List.mem_map.mp hitem
  have hoffset := hoffsets entry hentry
  refine ⟨entry, hentry, hname, hposition, ?_⟩
  rw [toNat_of_cast env.safeCast hcast, publishedId]
  omega

/-- With one name at each position, an id is that of one name and one position. -/
theorem unambiguous_of_justified (hoffsets : ∀ entry ∈ entries, 110000 * entry.2 < 2 ^ 31)
    (hone : OneNamePerPosition entries) {first second : Published F}
    (hfirst : Justified env (entries.map dexOf) first)
    (hsecond : Justified env (entries.map dexOf) second)
    (hid : first.data.externalSecurityId = second.data.externalSecurityId) :
    first.name = second.name ∧ first.position = second.position := by
  obtain ⟨entry, hentry, hname, hposition, hvalue⟩ := exists_entry_of_justified hoffsets hfirst
  obtain ⟨entry', hentry', hname', hposition', hvalue'⟩ :=
    exists_entry_of_justified hoffsets hsecond
  rw [hid, hvalue'] at hvalue
  have hentries : entry.2 = entry'.2 := by omega
  exact ⟨by rw [← hname, ← hname', hone entry hentry entry' hentry' hentries], by omega⟩

end

/-! ## Runs -/

variable [Double F] {env : MetaEnv} {listing listing' : Listing F}

/-- What a `perpDexs` reply does. -/
theorem handle_perpDexs {reply : List GetPerpDexsAckItem}
    (h : handle env listing (.perpDexs reply) = .ok listing') :
    ∃ dex, perpDexsAck env.settings listing.dex reply = .ok dex ∧
      listing' = { listing with dex } := by
  obtain ⟨dex, hdex, h⟩ := bind_eq_ok.mp h
  exact ⟨dex, hdex, (Except.ok.inj h).symm⟩

/-- What a `meta` reply does. -/
theorem handle_metas {index : Nat} {items : List GetMetaAckUniverseItem}
    (h : handle env listing (.metas index items) = .ok listing') :
    ∃ dex, listing.dex[index]? = some dex ∧ listing' = { listing with
      allSymbols := (metaAck (F := F) env listing.dex index items listing.allSymbols).2.allSymbols
      published := listing.published ++ publishedOf dex.name
        (metaAck env listing.dex index items listing.allSymbols).2.referenceData } := by
  unfold handle at h
  dsimp only at h
  split at h
  · cases h
  · next dex hdex _ => exact ⟨dex, hdex, (Except.ok.inj h).symm⟩
  · cases h

/-- The events of a reply are those of the entry that it was asked for. -/
theorem justified_publishedOf {index : Nat} {items : List GetMetaAckUniverseItem}
    {allSymbols : List String} {dexs : List Dex} {dex : Dex} (hdex : dexs[index]? = some dex)
    (hitems : items.length ≤ 110000) {event : Published F}
    (hevent : event ∈ publishedOf dex.name
      (metaAck env dexs index items allSymbols).2.referenceData) :
    Justified env dexs event := by
  obtain ⟨⟨data, k⟩, hentry, rfl⟩ := List.mem_map.mp hevent
  have hdata := List.mem_zipIdx_iff_getElem?.mp hentry
  obtain ⟨dex', item, hdex', hitem, hdata⟩ := referenceData_metaAck env hdata
  rw [hdex] at hdex'
  cases hdex'
  obtain ⟨hk, _⟩ := List.getElem?_eq_some_iff.mp hitem
  exact ⟨dex, List.mem_of_getElem? hdex, rfl, hk.trans_le hitems,
    externalSecurityId_of_ok env hdata⟩

/-- Every reply that does not end the process keeps the invariant. -/
theorem Inv.handle {handled : Handled} (h : Inv env listing) (hfits : handled.Fits)
    (hok : handle env listing handled = .ok listing') : Inv env listing' := by
  cases handled with
  | perpDexs reply =>
    obtain ⟨dex, hdex, rfl⟩ := handle_perpDexs hok
    refine ⟨sameOffsets_perpDexsAck env.settings h.sameOffsets hdex, ?_⟩
    intro event hevent
    obtain ⟨item, hitem, hevent⟩ := h.justified event hevent
    refine ⟨item, ?_, hevent⟩
    rw [perpDexsAck_eq_ok env.settings hdex]
    exact List.mem_append_left _ hitem
  | metas index items =>
    obtain ⟨dex, hdex, rfl⟩ := handle_metas hok
    refine ⟨h.sameOffsets, ?_⟩
    intro event hevent
    rcases List.mem_append.mp hevent with hevent | hevent
    · exact h.justified event hevent
    · exact justified_publishedOf hdex hfits hevent

/-- Replies whose sizes fit keep the invariant. -/
theorem Inv.run {replies : List Handled} (h : Inv env listing)
    (hfits : ∀ handled ∈ replies, handled.Fits)
    (hok : replies.foldlM (Listing.handle env) listing = .ok listing') : Inv env listing' := by
  induction replies generalizing listing with
  | nil =>
    rw [List.foldlM_nil] at hok
    exact Except.ok.inj hok ▸ h
  | cons handled replies ih =>
    rw [List.foldlM_cons] at hok
    obtain ⟨next, hhandled, hreplies⟩ := bind_eq_ok.mp hok
    exact ih (h.handle (hfits handled (List.mem_cons_self ..)) hhandled)
      (fun later hlater ↦ hfits later (List.mem_cons_of_mem _ hlater)) hreplies

/-- The list of dexes follows from the `perpDexs` replies. -/
theorem perpDexsAcks_of_run {replies : List Handled}
    (hok : replies.foldlM (Listing.handle env) listing = .ok listing') :
    perpDexsAcks env.settings listing.dex (replies.filterMap Handled.dexs?) =
      .ok listing'.dex := by
  unfold perpDexsAcks
  induction replies generalizing listing with
  | nil =>
    rw [List.foldlM_nil] at hok
    exact Except.ok.inj hok ▸ rfl
  | cons handled replies ih =>
    rw [List.foldlM_cons] at hok
    obtain ⟨next, hhandled, hreplies⟩ := bind_eq_ok.mp hok
    have hrest := ih hreplies
    cases handled with
    | perpDexs reply =>
      obtain ⟨dex, hdex, rfl⟩ := handle_perpDexs hhandled
      show (reply :: replies.filterMap Handled.dexs?).foldlM _ _ = _
      rw [List.foldlM_cons]
      exact bind_eq_ok.mpr ⟨dex, hdex, hrest⟩
    | metas index items =>
      obtain ⟨dex, _, rfl⟩ := handle_metas hhandled
      exact hrest

/-- From the start, the list has the kept items of all replies. -/
theorem dex_of_run {replies : List Handled}
    (hok : replies.foldlM (Listing.handle env) (new F) = .ok listing) :
    listing.dex = (keptOf env.settings replies).map dexOf :=
  perpDexsAcks_eq_ok env.settings (perpDexsAcks_of_run hok)

/-- An event carries the id of every other one of its name and position, and no other event
carries it, while the kept names of all replies have different positions. -/
theorem identified_of_oneName {replies : List Handled}
    (hok : replies.foldlM (Listing.handle env) (new F) = .ok listing)
    (hfits : ∀ handled ∈ replies, handled.Fits)
    (hoffsets : ∀ entry ∈ keptOf env.settings replies, 110000 * entry.2 < 2 ^ 31)
    (hone : OneNamePerPosition (keptOf env.settings replies)) : Identified listing.published := by
  have hinv := inv_new.run hfits hok
  constructor
  · intro first hfirst second hsecond hname hposition
    exact hinv.stable hfirst hsecond hname hposition
  · intro first hfirst second hsecond hid
    have hfirst := hinv.justified first hfirst
    have hsecond := hinv.justified second hsecond
    rw [dex_of_run hok] at hfirst hsecond
    exact unambiguous_of_justified hoffsets hone hfirst hsecond hid

/-- The id of the first item, while the offset fits. -/
theorem toNat_assetId {i : Nat} (h : 110000 * i < 2 ^ 31) :
    (assetId (assetIdOffset i) 0).toNat = 110000 * i := by
  have hword : (UInt64.ofNat i * offsetDex).toUInt32 = UInt32.ofNat (110000 * i) := by
    rw [UInt64.toUInt32_mul, UInt64.toUInt32_ofNat', UInt32.ofNat_mul, UInt32.mul_comm]
    rfl
  have hoffset : assetIdOffset i = Int32.ofNat (110000 * i) := congrArg UInt32.toInt32 hword
  have hwide : (Int32.ofNat (110000 * i)).toInt64 = Int64.ofNat (110000 * i) := by
    apply Int64.toInt_inj.mp
    rw [Int32.toInt_toInt64, Int32.toInt_ofNat_of_lt h, Int64.toInt_ofNat_of_lt (by omega)]
  rw [assetId, hoffset, hwide, Int64.toUInt64_ofNat']
  show (UInt64.ofNat (110000 * i) + 0).toNat = _
  rw [UInt64.add_zero, UInt64.toNat_ofNat_of_lt' (h.trans (by decide))]

/-- A universe of one item is published for any entry with an id. -/
theorem exists_handle_metas {index : Nat} {dex : Dex} {id : UInt32}
    (hdex : listing.dex[index]? = some dex)
    (hid : env.safeCast.toUInt32 (assetId dex.assetIdOffset 0) = .ok id) :
    ∃ data allSymbols, handle env listing (.metas index [⟨"", 0⟩]) = .ok { listing with
      allSymbols, published := listing.published ++ [⟨dex.name, 0, data⟩] } ∧
        data.externalSecurityId = id := by
  obtain ⟨steps, hsteps⟩ : ∃ steps, TickSizeSteps.get (F := F) (UInt32.toInt32 0).toInt false =
      .ok steps := ⟨_, rfl⟩
  obtain ⟨data, hdata, hdataId⟩ : ∃ data : ReferenceData F,
      referenceData env dex 0 ⟨"", 0⟩ = .ok data ∧ data.externalSecurityId = id :=
    ⟨_, bind_eq_ok.mpr ⟨steps, hsteps, bind_eq_ok.mpr ⟨id, hid, rfl⟩⟩, rfl⟩
  let run : MetaRun F := MetaRun.publish { allSymbols := listing.allSymbols } data
  have hrun : metaAck env listing.dex index [⟨"", 0⟩] listing.allSymbols = (.ok (), run) := by
    simp only [metaAck, hdex, publishAll, hdata, run]
  have hpublished : run.referenceData = [data] := referenceData_publish _ data
  refine ⟨data, run.allSymbols, ?_, hdataId⟩
  simp only [handle, hrun, hdex, hpublished]
  rfl

/-- In all continuations by `meta` replies the events are identified by their ids, exactly when
no two kept names have been at one position. -/
theorem identified_iff {replies : List Handled}
    (hcast : ∀ x, x.toNat < 2 ^ 32 → ∃ id, env.safeCast.toUInt32 x = .ok id)
    (hok : replies.foldlM (Listing.handle env) (new F) = .ok listing)
    (hfits : ∀ handled ∈ replies, handled.Fits)
    (hoffsets : ∀ entry ∈ keptOf env.settings replies, 110000 * entry.2 < 2 ^ 31) :
    (∀ (later : List Handled) (listing' : Listing F),
        (∀ handled ∈ later, handled.dexs? = none ∧ handled.Fits) →
        later.foldlM (Listing.handle env) listing = .ok listing' →
          Identified listing'.published) ↔
      OneNamePerPosition (keptOf env.settings replies) := by
  constructor
  · intro h first hfirst second hsecond hposition
    have hfits := hoffsets first hfirst
    obtain ⟨id, hid⟩ := hcast (assetId (assetIdOffset first.2) 0) (by
      rw [toNat_assetId hfits]
      omega)
    have hmem : ∀ entry ∈ keptOf env.settings replies, ∃ index : Nat,
        listing.dex[index]? = some (dexOf entry) := by
      intro entry hentry
      rw [dex_of_run hok]
      exact List.getElem?_of_mem (List.mem_map_of_mem hentry)
    obtain ⟨i, hi⟩ := hmem first hfirst
    obtain ⟨j, hj⟩ := hmem second hsecond
    -- a universe of one item for each of the two
    obtain ⟨data, allSymbols, hhandle, hdata⟩ := exists_handle_metas hi hid
    obtain ⟨data', allSymbols', hhandle', hdata'⟩ :=
      @exists_handle_metas F _ env { listing with
        allSymbols, published := listing.published ++ [⟨first.1.name, 0, data⟩] } j _ id hj
        (by rw [← hid, hposition]; rfl)
    have hidentified := h [.metas i [⟨"", 0⟩], .metas j [⟨"", 0⟩]] _ (by
      intro handled hhandled
      rcases List.mem_pair.mp hhandled with rfl | rfl
      · exact ⟨rfl, (by decide : 1 ≤ 110000)⟩
      · exact ⟨rfl, (by decide : 1 ≤ 110000)⟩)
      (bind_eq_ok.mpr ⟨_, hhandle, bind_eq_ok.mpr ⟨_, hhandle', rfl⟩⟩)
    refine (hidentified.unambiguous ⟨first.1.name, 0, data⟩ ?_ ⟨second.1.name, 0, data'⟩ ?_
      (hdata.trans hdata'.symm)).1
    · simp
    · simp [dexOf]
  · intro hone later listing' hlater hok'
    have hdexs : keptOf env.settings (replies ++ later) = keptOf env.settings replies := by
      have hnone : later.filterMap Handled.dexs? = [] :=
        List.filterMap_eq_nil_iff.mpr fun handled hhandled ↦ (hlater handled hhandled).1
      rw [keptOf, List.filterMap_append, hnone, List.append_nil, keptOf]
    have hrun : (replies ++ later).foldlM (Listing.handle env) (new F) = .ok listing' := by
      rw [List.foldlM_append]
      exact bind_eq_ok.mpr ⟨listing, hok, hok'⟩
    rw [← hdexs] at hoffsets hone
    apply identified_of_oneName hrun _ hoffsets hone
    intro handled hhandled
    rcases List.mem_append.mp hhandled with hearly | hlate
    · exact hfits handled hearly
    · exact (hlater handled hlate).2

/-- Two configured exchanges beside the main one, listed in one reply. -/
def listed : List Handled := [.perpDexs [⟨""⟩, ⟨"a"⟩, ⟨"b"⟩], .metas 1 [⟨"X", 2⟩]]

/-- A second exchange has listed a symbol, and no list of exchanges follows. -/
theorem identified_iff_listed :
    (∀ (later : List Handled) (listing : Listing ℚ),
        (∀ handled ∈ later, handled.dexs? = none ∧ handled.Fits) →
        later.foldlM (Listing.handle Publication.fixedEnv)
          ⟨Publication.second.dex, ["X"], [⟨"a", 0, Publication.fixedData 110000⟩]⟩ =
            .ok listing → Identified listing.published) ↔
      OneNamePerPosition [(⟨""⟩, 0), (⟨"a"⟩, 1), (⟨"b"⟩, 2)] :=
  @identified_iff ℚ _ Publication.fixedEnv _ listed (fun _ hx ↦ ⟨_, if_pos hx⟩) rfl
    (by simp [listed, Handled.Fits]) (by decide)

/-- A second reply has another name at the position of the first. -/
def takenOver : List Handled :=
  [.perpDexs [⟨""⟩, ⟨"a"⟩], .metas 1 [⟨"X", 2⟩], .perpDexs [⟨""⟩, ⟨"b"⟩], .metas 3 [⟨"X", 2⟩]]

/-- The first items of both exchanges have the id 110000. -/
theorem not_identified_takenOver :
    ¬ ∀ (env : MetaEnv) (replies : List Handled) (listing : Listing ℚ),
      replies.foldlM (Listing.handle env) (new ℚ) = .ok listing →
      (∀ handled ∈ replies, handled.Fits) →
      (∀ entry ∈ keptOf env.settings replies, 110000 * entry.2 < 2 ^ 31) →
        Identified listing.published := by
  intro h
  have hidentified := h Publication.fixedEnv takenOver
    ⟨[⟨"", 0⟩, ⟨"a", 110000⟩, ⟨"", 0⟩, ⟨"b", 110000⟩], ["X"],
      [⟨"a", 0, Publication.fixedData 110000⟩, ⟨"b", 0, Publication.fixedData 110000⟩]⟩ rfl
    (by simp [takenOver, Handled.Fits]) (by decide)
  have hnames := hidentified.unambiguous _ (List.mem_cons_self ..) _
    (List.mem_cons_of_mem _ (List.mem_cons_self ..)) rfl
  exact absurd hnames.1 (by decide)

end Listing

end Hyperliquid.Gateway.Rest
