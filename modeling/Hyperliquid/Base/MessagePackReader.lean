import Hyperliquid.Base.MessagePack
import Hyperliquid.Base.Reader
import Mathlib.Tactic.Zify

/-!
# Reading MessagePack

A reader by the MessagePack specification, for the formats that `packer` writes: a header
tells the format and holds the small values, the sizes and the counts; what it announces
follows it. Each header that is packed is taken back off the bytes.
-/

namespace Hyperliquid.Base.MessagePack

open BigEndian

/-- A value of the MessagePack type system: integers have no signedness, strings are bytes. -/
inductive Value where
  | nil
  | boolean (value : Bool)
  | integer (value : Int)
  | float (bits : UInt64)
  | string (bytes : List UInt8)
  | array (items : List Value)
  | map (members : List (Value × Value))
  deriving Repr

/-- What the first bytes of a value tell. -/
inductive Header where
  | nil
  | boolean (value : Bool)
  | integer (value : Int)
  | float (bits : UInt64)
  | string (length : Nat)
  | array (length : Nat)
  | map (length : Nat)
  deriving DecidableEq, Repr

/-- The integer of a two's complement word of `w` bytes. -/
def signed (w n : Nat) : Int := if 2 * n < 256 ^ w then n else n - 256 ^ w

/-- The formats that are not told by the high bits of their first byte. -/
def taggedHeader (tag : UInt8) : Reader Header :=
  match tag with
  | 0xc0 => pure .nil
  | 0xc2 => pure (.boolean false)
  | 0xc3 => pure (.boolean true)
  | 0xcb => do let n ← Reader.word 8; pure (.float (UInt64.ofNat n))
  | 0xcc => do let n ← Reader.word 1; pure (.integer n)
  | 0xcd => do let n ← Reader.word 2; pure (.integer n)
  | 0xce => do let n ← Reader.word 4; pure (.integer n)
  | 0xcf => do let n ← Reader.word 8; pure (.integer n)
  | 0xd0 => do let n ← Reader.word 1; pure (.integer (signed 1 n))
  | 0xd1 => do let n ← Reader.word 2; pure (.integer (signed 2 n))
  | 0xd2 => do let n ← Reader.word 4; pure (.integer (signed 4 n))
  | 0xd3 => do let n ← Reader.word 8; pure (.integer (signed 8 n))
  | 0xd9 => do let n ← Reader.word 1; pure (.string n)
  | 0xda => do let n ← Reader.word 2; pure (.string n)
  | 0xdb => do let n ← Reader.word 4; pure (.string n)
  | 0xdc => do let n ← Reader.word 2; pure (.array n)
  | 0xdd => do let n ← Reader.word 4; pure (.array n)
  | 0xde => do let n ← Reader.word 2; pure (.map n)
  | 0xdf => do let n ← Reader.word 4; pure (.map n)
  -- binary data, extensions and single-precision floats are never written
  | _ => failure

/-- The header that starts with a byte: the fix formats hold their value, size or count. -/
def headerOf (tag : UInt8) : Reader Header :=
  if tag < 0x80 then pure (.integer tag.toNat)
  else if tag < 0x90 then pure (.map (tag.toNat - 0x80))
  else if tag < 0xa0 then pure (.array (tag.toNat - 0x90))
  else if tag < 0xc0 then pure (.string (tag.toNat - 0xa0))
  else if tag < 0xe0 then taggedHeader tag
  else pure (.integer (tag.toNat - 256))

/-- Reads a header. -/
def header : Reader Header := do
  let tag ← Reader.byte
  headerOf tag

/-- Reads what follows a header, with a reader for the values inside. -/
def body (read : Reader Value) : Header → Reader Value
  | .nil => pure .nil
  | .boolean value => pure (.boolean value)
  | .integer value => pure (.integer value)
  | .float bits => pure (.float bits)
  | .string length => do
    let bytes ← Reader.take length
    pure (.string bytes)
  | .array length => do
    let items ← Reader.many read length
    pure (.array items)
  | .map length => do
    let members ← Reader.many (Reader.pair read read) length
    pure (.map members)

/-- Reads a value in which values are nested to a depth below the given one. -/
def read : (depth : Nat) → Reader Value
  | 0 => failure
  | depth + 1 => do
    let h ← header
    body (read depth) h

/-- Reads a value off a byte string, with what follows it; no value is nested deeper than
it has bytes. -/
def decode (bytes : List UInt8) : Option (Value × List UInt8) := read bytes.length bytes

/-! ### The headers that are packed -/

open Reader

/-- A header in which the whole value is one byte. -/
theorem reads_header_byte {tag : UInt8} {h : Header} (heq : headerOf tag = pure h) :
    Reads header [tag] h := by
  have hbind : Reads header ([tag] ++ []) h :=
    (reads_byte tag).bind (heq ▸ reads_pure h)
  rwa [List.append_nil] at hbind

/-- A header of a tag and a word. -/
theorem reads_header_word {tag : UInt8} {w : Nat} (f : Nat → Header)
    (heq : headerOf tag = do let n ← word w; pure (f n)) (n : Nat) :
    Reads header (tag :: ofWord w n) (f (n % 256 ^ w)) := by
  have hword : Reads (headerOf tag) (ofWord w n) (f (n % 256 ^ w)) := by
    rw [heq]
    exact (reads_word w n).map f
  exact (reads_byte tag).bind hword

/-- A header of a tag and a word that holds the whole number. -/
theorem reads_header_word_of_lt {tag : UInt8} {w n : Nat} (f : Nat → Header)
    (heq : headerOf tag = do let n ← word w; pure (f n)) (h : n < 256 ^ w) :
    Reads header (tag :: ofWord w n) (f n) := by
  have hword := reads_header_word f heq n
  rwa [Nat.mod_eq_of_lt h] at hword

/-- The null value is read back. -/
theorem reads_packNil : Reads header packNil .nil := reads_header_byte rfl

/-- A truth value is read back. -/
theorem reads_packBool (value : Bool) : Reads header (packBool value) (.boolean value) := by
  cases value with
  | false => exact reads_header_byte rfl
  | true => exact reads_header_byte rfl

/-- A double is read back by its bits. -/
theorem reads_packFloat64 (bits : UInt64) : Reads header (packFloat64 bits) (.float bits) := by
  have hword : Reads header (packFloat64 bits) (.float (UInt64.ofNat bits.toNat)) :=
    reads_header_word_of_lt (fun n ↦ .float (UInt64.ofNat n)) rfl bits.toNat_lt
  rwa [UInt64.ofNat_toNat] at hword

private theorem ofWord_one (n : Nat) : ofWord 1 n = [UInt8.ofNat n] := by
  simp only [ofWord, Nat.pow_zero, Nat.div_one]

private theorem headerOf_integer {tag : UInt8} (h : tag.toNat < 0x80) :
    headerOf tag = pure (.integer tag.toNat) :=
  if_pos (UInt8.lt_iff_toNat_lt.mpr h)

private theorem headerOf_map {tag : UInt8} (h : 0x80 ≤ tag.toNat) (h' : tag.toNat < 0x90) :
    headerOf tag = pure (.map (tag.toNat - 0x80)) := by
  have hinteger : ¬ tag < 0x80 := mt UInt8.lt_iff_toNat_lt.mp (Nat.not_lt.mpr h)
  rw [headerOf, if_neg hinteger, if_pos (UInt8.lt_iff_toNat_lt.mpr h')]

private theorem headerOf_array {tag : UInt8} (h : 0x90 ≤ tag.toNat) (h' : tag.toNat < 0xa0) :
    headerOf tag = pure (.array (tag.toNat - 0x90)) := by
  have hmap : ¬ tag < 0x90 := mt UInt8.lt_iff_toNat_lt.mp (Nat.not_lt.mpr h)
  have hinteger : ¬ tag < 0x80 := mt UInt8.lt_iff_toNat_lt.mp (by show ¬ _ < 128; omega)
  rw [headerOf, if_neg hinteger, if_neg hmap, if_pos (UInt8.lt_iff_toNat_lt.mpr h')]

private theorem headerOf_string {tag : UInt8} (h : 0xa0 ≤ tag.toNat) (h' : tag.toNat < 0xc0) :
    headerOf tag = pure (.string (tag.toNat - 0xa0)) := by
  have harray : ¬ tag < 0xa0 := mt UInt8.lt_iff_toNat_lt.mp (Nat.not_lt.mpr h)
  have hmap : ¬ tag < 0x90 := mt UInt8.lt_iff_toNat_lt.mp (by show ¬ _ < 144; omega)
  have hinteger : ¬ tag < 0x80 := mt UInt8.lt_iff_toNat_lt.mp (by show ¬ _ < 128; omega)
  rw [headerOf, if_neg hinteger, if_neg hmap, if_neg harray,
    if_pos (UInt8.lt_iff_toNat_lt.mpr h')]

private theorem headerOf_negative {tag : UInt8} (h : 0xe0 ≤ tag.toNat) :
    headerOf tag = pure (.integer (tag.toNat - 256)) := by
  have hlimit (limit : UInt8) (hle : limit.toNat ≤ 0xe0) : ¬ tag < limit := by
    rw [UInt8.lt_iff_toNat_lt]
    omega
  rw [headerOf, if_neg (hlimit _ (by decide)), if_neg (hlimit _ (by decide)),
    if_neg (hlimit _ (by decide)), if_neg (hlimit _ (by decide)), if_neg (hlimit _ (by decide))]

/-- The word of a negative number that fits into it. -/
theorem signed_emod {w : Nat} {n : Int} (h : -256 ^ w ≤ 2 * n) (hneg : n < 0) :
    signed w (n % 256 ^ w).toNat = n := by
  have hmod : n % 256 ^ w = n + 256 ^ w := by
    rw [← Int.add_emod_right, Int.emod_eq_of_lt (by omega) (by omega)]
  have hnat : ((n + 256 ^ w).toNat : Int) = n + 256 ^ w := Int.toNat_of_nonneg (by omega)
  have hlarge : ¬ 2 * (n + 256 ^ w).toNat < 256 ^ w := by
    zify
    omega
  rw [hmod, signed, if_neg hlarge, hnat]
  omega

/-- A header of a tag and the word of a negative number. -/
theorem reads_header_signedWord {tag : UInt8} {w : Nat} {n : Int}
    (heq : headerOf tag = do let m ← word w; pure (.integer (signed w m)))
    (h : -256 ^ w ≤ 2 * n) (hneg : n < 0) :
    Reads header (tag :: signedWord w n) (.integer n) := by
  have hlt : (n % 256 ^ w).toNat < 256 ^ w := by
    zify
    omega
  have hword := reads_header_word_of_lt (fun m ↦ .integer (signed w m)) heq hlt
  rwa [signed_emod h hneg] at hword

/-- A non-negative integer is read back. -/
theorem reads_packNat {n : Nat} (h : n < 2 ^ 64) : Reads header (packNat n) (.integer n) := by
  let f : Nat → Header := fun n ↦ .integer n
  unfold packNat
  split_ifs with h7 h8 h16 h32
  · have htag : (UInt8.ofNat n).toNat = n := by
      rw [UInt8.toNat_ofNat']
      exact Nat.mod_eq_of_lt (by omega)
    rw [ofWord_one]
    apply reads_header_byte
    rw [headerOf_integer (by omega), htag]
  · exact reads_header_word_of_lt f rfl (by omega)
  · exact reads_header_word_of_lt f rfl (by omega)
  · exact reads_header_word_of_lt f rfl (by omega)
  · exact reads_header_word_of_lt f rfl (by omega)

/-- Any 64-bit signed integer is read back. -/
theorem reads_packInt {n : Int} (h : -2 ^ 63 ≤ n) (h' : n < 2 ^ 63) :
    Reads header (packInt n) (.integer n) := by
  unfold packInt
  split_ifs with h0 h5 h7 h15 h31
  · have hnat : Reads header (packNat n.toNat) (.integer n.toNat) := reads_packNat (by omega)
    rwa [Int.toNat_of_nonneg h0] at hnat
  · have htag : (UInt8.ofNat (n % 256 ^ 1).toNat).toNat = n + 256 := by
      rw [UInt8.toNat_ofNat']
      omega
    rw [signedWord, ofWord_one]
    apply reads_header_byte
    rw [headerOf_negative (by omega), htag, Int.add_sub_cancel]
  · exact reads_header_signedWord rfl (by omega) (by omega)
  · exact reads_header_signedWord rfl (by omega) (by omega)
  · exact reads_header_signedWord rfl (by omega) (by omega)
  · exact reads_header_signedWord rfl (by omega) (by omega)

/-- The header of a string. -/
def packStrHeader (n : Nat) : List UInt8 :=
  if n < 2 ^ 5 then ofWord 1 (0xa0 + n)
  else if n < 2 ^ 8 then 0xd9 :: ofWord 1 n
  else if n < 2 ^ 16 then 0xda :: ofWord 2 n
  else 0xdb :: ofWord 4 n

private theorem packStr_eq (bytes : List UInt8) :
    packStr bytes = packStrHeader bytes.length ++ bytes :=
  rfl

/-- The header of a string tells the low 32 bits of its length. -/
theorem reads_packStrHeader (n : Nat) :
    Reads header (packStrHeader n) (.string (n % 2 ^ 32)) := by
  have hmod (h : n < 2 ^ 32) : n % 2 ^ 32 = n := Nat.mod_eq_of_lt h
  unfold packStrHeader
  split_ifs with h5 h8 h16
  · have htag : (UInt8.ofNat (0xa0 + n)).toNat = 0xa0 + n := by
      rw [UInt8.toNat_ofNat']
      exact Nat.mod_eq_of_lt (by omega)
    rw [ofWord_one, hmod (by omega)]
    apply reads_header_byte
    rw [headerOf_string (by omega) (by omega), htag, Nat.add_sub_cancel_left]
  · rw [hmod (by omega)]
    exact reads_header_word_of_lt Header.string rfl (by omega)
  · rw [hmod (by omega)]
    exact reads_header_word_of_lt Header.string rfl (by omega)
  · exact reads_header_word Header.string rfl n

/-- The header of a compound value tells the low 32 bits of its count. -/
theorem reads_packHeader {fix tag16 tag32 : UInt8} (f : Nat → Header)
    (hfix : ∀ n < 2 ^ 4, headerOf (fix + UInt8.ofNat n) = pure (f n))
    (h16 : headerOf tag16 = do let n ← word 2; pure (f n))
    (h32 : headerOf tag32 = do let n ← word 4; pure (f n)) (count : Nat) :
    Reads header (packHeader fix tag16 tag32 count) (f (count % 2 ^ 32)) := by
  have hlt : count % 2 ^ 32 < 2 ^ 32 := Nat.mod_lt _ (by omega)
  unfold packHeader
  generalize count % 2 ^ 32 = n at hlt ⊢
  dsimp only
  split_ifs with h4 hword
  · exact reads_header_byte (hfix n h4)
  · exact reads_header_word_of_lt f h16 (by omega)
  · exact reads_header_word_of_lt f h32 (by omega)

/-- The count of an array is read back modulo `2 ^ 32`. -/
theorem reads_packArray (n : Nat) : Reads header (packArray n) (.array (n % 2 ^ 32)) := by
  apply reads_packHeader Header.array _ rfl rfl
  intro n hn
  have htag : (0x90 + UInt8.ofNat n).toNat = 0x90 + n := by
    rw [UInt8.toNat_add, UInt8.toNat_ofNat']
    show (144 + n % 256) % 256 = 144 + n
    omega
  rw [headerOf_array (by omega) (by omega), htag, Nat.add_sub_cancel_left]

/-- The count of a map is read back modulo `2 ^ 32`. -/
theorem reads_packMap (n : Nat) : Reads header (packMap n) (.map (n % 2 ^ 32)) := by
  apply reads_packHeader Header.map _ rfl rfl
  intro n hn
  have htag : (0x80 + UInt8.ofNat n).toNat = 0x80 + n := by
    rw [UInt8.toNat_add, UInt8.toNat_ofNat']
    show (128 + n % 256) % 256 = 128 + n
    omega
  rw [headerOf_map (by omega) (by omega), htag, Nat.add_sub_cancel_left]

/-! ### Values from their headers -/

/-- A header has at least one byte. -/
theorem length_pos_of_reads_header {bytes : List UInt8} {h : Header}
    (hh : Reads header bytes h) : 0 < bytes.length := by
  cases bytes with
  | nil => cases hh []
  | cons b bytes => exact Nat.succ_pos _

/-- A value is read from its header and from what follows the header. -/
theorem reads_of_header {headerBytes bytes : List UInt8} {h : Header} {value : Value}
    (hh : Reads header headerBytes h)
    (hbody : ∀ depth, bytes.length ≤ depth → Reads (body (read depth) h) bytes value)
    {depth : Nat} (hdepth : (headerBytes ++ bytes).length ≤ depth) :
    Reads (read depth) (headerBytes ++ bytes) value := by
  have hpos := length_pos_of_reads_header hh
  rw [List.length_append] at hdepth
  cases depth with
  | zero => omega
  | succ depth => exact hh.bind (hbody depth (by omega))

/-- A value that is its header. -/
theorem reads_of_header_only {headerBytes : List UInt8} {h : Header} {value : Value}
    (hh : Reads header headerBytes h) (hbody : ∀ read, body read h = pure value) {depth : Nat}
    (hdepth : headerBytes.length ≤ depth) : Reads (read depth) headerBytes value := by
  rw [← List.append_nil headerBytes] at hdepth ⊢
  apply reads_of_header hh _ hdepth
  intro depth _
  rw [hbody]
  exact reads_pure value

/-- What has been read after a header. -/
theorem body_of_read {headerBytes bytes rest : List UInt8} {h : Header} {value : Value}
    (hh : Reads header headerBytes h) {depth : Nat}
    (hread : read depth (headerBytes ++ bytes) = some (value, rest)) :
    ∃ inner, depth = inner + 1 ∧ body (read inner) h bytes = some (value, rest) := by
  cases depth with
  | zero => cases hread
  | succ inner =>
    refine ⟨inner, rfl, ?_⟩
    rw [← hread]
    exact (bind_of_reads hh _ bytes).symm

/-- A string of fewer than `2 ^ 32` bytes is read back. -/
theorem reads_packStr {bytes : List UInt8} (h : bytes.length < 2 ^ 32) {depth : Nat}
    (hdepth : (packStr bytes).length ≤ depth) :
    Reads (read depth) (packStr bytes) (.string bytes) := by
  have hheader := reads_packStrHeader bytes.length
  rw [Nat.mod_eq_of_lt h] at hheader
  rw [packStr_eq] at hdepth ⊢
  exact reads_of_header hheader (fun _ _ ↦ (reads_take bytes).map Value.string) hdepth

/-- A string that is read back whole has a length that its header can hold. -/
theorem length_lt_of_read_packStr {bytes rest rest' : List UInt8} {depth : Nat}
    (h : read depth (packStr bytes ++ rest) = some (.string bytes, rest')) :
    bytes.length < 2 ^ 32 := by
  rw [packStr_eq, List.append_assoc] at h
  obtain ⟨inner, _, hbody⟩ := body_of_read (reads_packStrHeader bytes.length) h
  obtain ⟨taken, _, htake, hpure⟩ := bind_eq_some hbody
  cases hpure
  have hlength := length_of_take htake
  have hlt : bytes.length % 2 ^ 32 < 2 ^ 32 := Nat.mod_lt _ (by omega)
  omega

end Hyperliquid.Base.MessagePack
