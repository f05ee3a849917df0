import Hyperliquid.Base.BigEndian
import Mathlib.Algebra.Group.Int.Defs

/-!
# MessagePack encoding

The formats of the MessagePack specification, each value in the smallest size class
that holds it, as `msgpack::packer` chooses them. Compound values are written as a
header followed by their members; the packer takes their counts as `uint32_t`.
-/

namespace Hyperliquid.Base.MessagePack

open BigEndian

/-- The nil format. -/
def packNil : List UInt8 := [0xc0]

/-- The two boolean formats. -/
def packBool (b : Bool) : List UInt8 := [if b then 0xc3 else 0xc2]

/-- A non-negative integer: positive fixint, then uint 8/16/32/64. -/
def packNat (n : Nat) : List UInt8 :=
  if n < 2 ^ 7 then ofWord 1 n
  else if n < 2 ^ 8 then 0xcc :: ofWord 1 n
  else if n < 2 ^ 16 then 0xcd :: ofWord 2 n
  else if n < 2 ^ 32 then 0xce :: ofWord 4 n
  else 0xcf :: ofWord 8 n

/-- The two's complement word of `w` bytes of an integer. -/
def signedWord (w : Nat) (n : Int) : List UInt8 := ofWord w (n % 256 ^ w).toNat

/-- Any integer: negative values use negative fixint, then int 8/16/32/64. -/
def packInt (n : Int) : List UInt8 :=
  if 0 ≤ n then packNat n.toNat
  else if -2 ^ 5 ≤ n then signedWord 1 n
  else if -2 ^ 7 ≤ n then 0xd0 :: signedWord 1 n
  else if -2 ^ 15 ≤ n then 0xd1 :: signedWord 2 n
  else if -2 ^ 31 ≤ n then 0xd2 :: signedWord 4 n
  else 0xd3 :: signedWord 8 n

/-- A double, by its IEEE bit pattern. -/
def packFloat64 (bits : UInt64) : List UInt8 := 0xcb :: ofWord 8 bits.toNat

/-- A string: fixstr, then str 8/16/32, followed by its bytes. -/
def packStr (bytes : List UInt8) : List UInt8 :=
  let n := bytes.length
  (if n < 2 ^ 5 then ofWord 1 (0xa0 + n)
    else if n < 2 ^ 8 then 0xd9 :: ofWord 1 n
    else if n < 2 ^ 16 then 0xda :: ofWord 2 n
    else 0xdb :: ofWord 4 n) ++ bytes

/-- The header of a compound value: the fix format, then 16 and 32 bits of count. The count is
narrowed to 32 bits before the format is chosen. -/
def packHeader (fix tag16 tag32 : UInt8) (count : Nat) : List UInt8 :=
  let n := count % 2 ^ 32
  if n < 2 ^ 4 then [fix + UInt8.ofNat n]
  else if n < 2 ^ 16 then tag16 :: ofWord 2 n
  else tag32 :: ofWord 4 n

/-- The header of an array of `n` items. -/
def packArray (n : Nat) : List UInt8 := packHeader 0x90 0xdc 0xdd n

/-- The header of a map of `n` members. -/
def packMap (n : Nat) : List UInt8 := packHeader 0x80 0xde 0xdf n

end Hyperliquid.Base.MessagePack
