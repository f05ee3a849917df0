import Mathlib.Algebra.Group.Nat.Defs

/-!
# Big-endian words

Fixed-width words as byte lists, most significant byte first. `ofWord` keeps the
low `8 * w` bits of a number; `toNat` reads any byte list back. The shift-and-mask
loop `shiftBytes` is the form in which C++ sources write the eight bytes of a
signed 64-bit word; it is shown to be the same bytes.
-/

namespace Hyperliquid.Base.BigEndian

/-- The low `w` bytes of `n`, most significant first; higher bytes are dropped. -/
def ofWord : Nat → Nat → List UInt8
  | 0, _ => []
  | w + 1, n => UInt8.ofNat (n / 256 ^ w) :: ofWord w n

/-- A word has its width. -/
@[simp] theorem length_ofWord (w n : Nat) : (ofWord w n).length = w := by
  induction w with
  | zero => rfl
  | succ w ih => rw [ofWord, List.length_cons, ih]

/-- The number a byte list spells, most significant byte first. -/
def toNat (bytes : List UInt8) : Nat :=
  bytes.foldl (fun acc b ↦ acc * 256 + b.toNat) 0

/-- The signed 64-bit word a byte list spells in two's complement. -/
def toInt64 (bytes : List UInt8) : Int64 := (UInt64.ofNat (toNat bytes)).toInt64

/-- `for (i = 0; i < 8; ++i) push((x >> ((7 - i) * 8)) & 0xff)` on a signed word:
the shift is arithmetic and the mask drops the copies of the sign bit. -/
def shiftBytes (x : Int64) : List UInt8 :=
  (List.range 8).map fun i ↦ ((x >>> Int64.ofNat ((7 - i) * 8)) &&& 0xff).toUInt64.toUInt8

/-- The loop always writes eight bytes. -/
@[simp] theorem length_shiftBytes (x : Int64) : (shiftBytes x).length = 8 := by
  simp [shiftBytes]

private theorem foldl_ofWord (w n acc : Nat) :
    (ofWord w n).foldl (fun acc b ↦ acc * 256 + b.toNat) acc =
      acc * 256 ^ w + n % 256 ^ w := by
  induction w generalizing acc with
  | zero => simp [ofWord, Nat.mod_one]
  | succ w ih =>
    have hs : n % 256 ^ (w + 1) = n / 256 ^ w % 256 * 256 ^ w + n % 256 ^ w := by
      rw [Nat.pow_succ, Nat.mod_mul, Nat.add_comm, Nat.mul_comm]
    simp only [ofWord, List.foldl_cons, UInt8.toNat_ofNat']
    rw [ih, hs, Nat.add_mul, Nat.add_assoc, Nat.mul_assoc, ← Nat.pow_succ']

/-- Reading a word back keeps exactly its low bytes. -/
theorem toNat_ofWord (w n : Nat) : toNat (ofWord w n) = n % 256 ^ w := by
  rw [toNat, foldl_ofWord, Nat.zero_mul, Nat.zero_add]

private theorem shiftByte_eq (x : Int64) (k : Nat) (hk : k ≤ 7) :
    ((x >>> Int64.ofNat (k * 8)) &&& 0xff).toUInt64.toUInt8 =
      UInt8.ofNat (x.toUInt64.toNat / 256 ^ k) := by
  have hpow : (256 : Nat) ^ k = 2 ^ (k * 8) := by
    rw [Nat.mul_comm, Nat.pow_mul]
  have hamount : ((Int64.ofNat (k * 8)).toBitVec.smod 64).toNat = k * 8 := by
    have hcases : k = 0 ∨ k = 1 ∨ k = 2 ∨ k = 3 ∨ k = 4 ∨ k = 5 ∨ k = 6 ∨ k = 7 := by omega
    rcases hcases with rfl | rfl | rfl | rfl | rfl | rfl | rfl | rfl <;> decide
  apply UInt8.toBitVec_inj.mp
  apply BitVec.eq_of_getLsbD_eq
  intro j hj
  have hmask : (0xff : Int64).toBitVec.getLsbD j = true := by
    have hcases : j = 0 ∨ j = 1 ∨ j = 2 ∨ j = 3 ∨ j = 4 ∨ j = 5 ∨ j = 6 ∨ j = 7 := by omega
    rcases hcases with rfl | rfl | rfl | rfl | rfl | rfl | rfl | rfl <;> decide
  have hright : (UInt8.ofNat (x.toUInt64.toNat / 256 ^ k)).toBitVec.getLsbD j =
      x.toBitVec.getLsbD (k * 8 + j) := by
    rw [UInt8.toBitVec_ofNat', BitVec.getLsbD_ofNat, hpow, ← Nat.shiftRight_eq_div_pow,
      Nat.testBit_shiftRight]
    simp only [hj, decide_true, Bool.true_and]
    rfl
  have hleft : ((x >>> Int64.ofNat (k * 8)) &&& 0xff).toUInt64.toUInt8.toBitVec.getLsbD j =
      ((x >>> Int64.ofNat (k * 8)) &&& 0xff).toBitVec.getLsbD j := by
    change (((x >>> Int64.ofNat (k * 8)) &&& 0xff).toBitVec.setWidth 8).getLsbD j = _
    rw [BitVec.getLsbD_setWidth]
    simp [hj]
  rw [hright, hleft, Int64.toBitVec_and, BitVec.getLsbD_and, hmask, Bool.and_true,
    Int64.toBitVec_shiftRight, BitVec.sshiftRight', hamount, BitVec.getLsbD_sshiftRight]
  have hlow : ¬ 64 ≤ j := by omega
  have hin : k * 8 + j < 64 := by omega
  simp [hlow, hin]

/-- The shift-and-mask loop writes the two's complement word. -/
theorem shiftBytes_eq_ofWord (x : Int64) : shiftBytes x = ofWord 8 x.toUInt64.toNat := by
  have hbyte (k : Nat) (hk : k ≤ 7) := shiftByte_eq x k hk
  simp only [shiftBytes, ofWord, List.range, List.range.loop, List.map_cons, List.map_nil]
  rw [hbyte 7 (by omega), hbyte 6 (by omega), hbyte 5 (by omega), hbyte 4 (by omega),
    hbyte 3 (by omega), hbyte 2 (by omega), hbyte 1 (by omega), hbyte 0 (by omega)]

/-- The eight bytes of a signed word read back as that word. -/
@[simp] theorem toInt64_shiftBytes (x : Int64) : toInt64 (shiftBytes x) = x := by
  rw [shiftBytes_eq_ofWord, toInt64, toNat_ofWord]
  have hlt : x.toUInt64.toNat < 256 ^ 8 := x.toUInt64.toNat_lt
  rw [Nat.mod_eq_of_lt hlt, UInt64.ofNat_toNat]
  rfl

end Hyperliquid.Base.BigEndian
