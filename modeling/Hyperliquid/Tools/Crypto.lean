import Hyperliquid.Tools.Encoder

/-!
# Signing of actions

`src/roq/hyperliquid/tools/crypto.cpp`: one signer per account. Signing advances the
account's nonce and prints the request body. The packed bytes come from the encoder and
are only hashed here.
-/

namespace Hyperliquid.Tools

open Hyperliquid.Base Hyperliquid.Tools.Encoder

/-- `utils::eth::Domain`. -/
structure Domain where
  name : String
  version : String
  chainId : Nat
  verifyingContract : String
  deriving DecidableEq, Repr

/-- `utils::eth::Type`, as far as it is used. -/
inductive FieldType where
  | string
  | bytes32
  deriving DecidableEq, Repr

/-- `utils::eth::Field`. -/
structure Field where
  name : String
  type : FieldType
  value : String
  deriving DecidableEq, Repr

/-- `utils::eth::Message`. -/
structure Message where
  type : String
  data : List Field
  deriving DecidableEq, Repr

/-- A recoverable signature. -/
structure Signature where
  r : List UInt8
  s : List UInt8
  v : Nat
  deriving DecidableEq, Repr

/-- What the signer uses of libraries outside the repository: `utils::hash::Keccak256`,
and `utils::eth::Messages::encode_typed_data` followed by `Account::sign_message`. -/
structure Eth where
  keccak256 : List UInt8 → List UInt8
  signTypedData : Domain → Message → Signature

/-- `EIP712_DOMAIN`, `crypto.cpp:22–27`. -/
def eip712Domain : Domain where
  name := "Exchange"
  version := "1"
  chainId := 1337
  verifyingContract := "0x0000000000000000000000000000000000000000"

/-- `get_source`, `crypto.cpp:36–38`. -/
def getSource (mainnet : Bool) : String := if mainnet then "a" else "b"

/-- `utils::codec::HexPrinter`: two lower-case digits a byte. -/
def hexPrinter (bytes : List UInt8) : String :=
  String.ofList (bytes.flatMap fun b ↦
    [Nat.digitChar (b.toNat / 16), Nat.digitChar (b.toNat % 16)])

/-- `compute_connection_id`, `crypto.cpp:40–45`. -/
def computeConnectionId (eth : Eth) (packed : List UInt8) : String :=
  "0x" ++ hexPrinter (eth.keccak256 packed)

/-- `tools::Crypto`. -/
structure Crypto where
  key : String
  mainnet : Bool
  nonce : Int64
  deriving DecidableEq, Repr

/-- The constructor, `crypto.cpp:50–52`. -/
def Crypto.create (key : String) : Crypto := ⟨key, true, 0⟩

/-- A member of the request body, by its name. -/
inductive Member where
  | action (text : String)
  | nonce (count : Int64)
  | signature (value : Signature)
  | expiresAfter (count : Int64)
  deriving DecidableEq, Repr

/-- The request body: its members in the order they are printed. -/
abbrev Body := List Member

/-- The text of one member, `crypto.cpp:81–97`. -/
def Member.format : Member → String
  | action text => "\"action\":" ++ text
  | nonce count => "\"nonce\":" ++ toString count
  | signature value =>
    "\"signature\":\x7b\"r\":\"0x" ++ hexPrinter value.r ++ "\",\"s\":\"0x" ++
      hexPrinter value.s ++ "\",\"v\":" ++ toString value.v ++ "\x7d"
  | expiresAfter count => "\"expiresAfter\":" ++ toString count

/-- The text of the body. -/
def Body.format (body : Body) : String :=
  "\x7b" ++ String.intercalate "," (body.map Member.format) ++ "\x7d"

/-- The number printed as `"nonce"`. -/
def Body.nonce? (body : Body) : Option Int64 :=
  body.findSome? fun
    | .nonce count => some count
    | _ => none

/-- The number printed as `"expiresAfter"`, if the body has that member. -/
def Body.expiresAfter? (body : Body) : Option Int64 :=
  body.findSome? fun
    | .expiresAfter count => some count
    | _ => none

/-- `if (nonce_ < now_utc) nonce_ = now_utc; else ++nonce_`, `crypto.cpp:57–61`. The
increment of the 64-bit count wraps here; the source leaves it undefined. -/
def nextNonce (nonce nowUtc : Int64) : Int64 := if nonce < nowUtc then nowUtc else nonce + 1

/-- `Crypto::sign_l1_action`, `crypto.cpp:54–98`. -/
def signL1Action (eth : Eth) (crypto : Crypto) (action : String) (packed : List UInt8)
    (nowUtc expiresAfterUtc : Int64) : Body × Crypto :=
  let crypto := { crypto with nonce := nextNonce crypto.nonce nowUtc }
  let connectionId := computeConnectionId eth packed
  let message : Message :=
    { type := "Agent"
      data :=
        [⟨"source", .string, getSource crypto.mainnet⟩, ⟨"connectionId", .bytes32, connectionId⟩] }
  let signedMessage := eth.signTypedData eip712Domain message
  ([.action action, .nonce crypto.nonce, .signature signedMessage, .expiresAfter expiresAfterUtc],
    crypto)

section

variable (eth : Eth) (crypto : Crypto) (action : String) (packed : List UInt8)
  (nowUtc expiresAfterUtc : Int64)

/-- The body always prints the expiry it was given. -/
@[simp] theorem expiresAfter?_signL1Action :
    Body.expiresAfter? (signL1Action eth crypto action packed nowUtc expiresAfterUtc).1 =
      some expiresAfterUtc := rfl

end

/-! ### Reading the signed bytes back -/

/-- The eight nonce bytes that follow an action. -/
def nonceBytes (action : Json) (packed : List UInt8) : List UInt8 :=
  (packed.drop (packJson action).length).take 8

/-- What follows the action, its nonce and the vault byte: nothing, or a zero byte and
the expiry. -/
def trailerExpiry? (action : Json) (packed : List UInt8) : Option Int64 :=
  match packed.drop ((packJson action).length + 9) with
  | 0x00 :: expiry => some (BigEndian.toInt64 expiry)
  | _ => none

/-- The packed nonce is the time the encoder was given. -/
theorem toInt64_nonceBytes_packHelper (action : Json) (nowUtc expiresAfterUtc : Int64) :
    BigEndian.toInt64 (nonceBytes action (packHelper action nowUtc expiresAfterUtc)) =
      nowUtc := by
  have hbytes : nonceBytes action (packHelper action nowUtc expiresAfterUtc) =
      BigEndian.shiftBytes nowUtc := by
    simp only [nonceBytes, packHelper, List.append_assoc, List.drop_left]
    exact List.take_left' (BigEndian.length_shiftBytes nowUtc)
  rw [hbytes, BigEndian.toInt64_shiftBytes]

private theorem drop_packHelper (action : Json) (nowUtc expiresAfterUtc : Int64) :
    (packHelper action nowUtc expiresAfterUtc).drop ((packJson action).length + 9) =
      if expiresAfterUtc ≠ 0 ∧ expiresAfterUtc ≠ nowUtc then
        0x00 :: BigEndian.shiftBytes expiresAfterUtc
      else [] := by
  apply List.drop_left'
  simp

/-- The trailer holds the expiry exactly when it is neither zero nor the nonce. -/
theorem trailerExpiry?_packHelper (action : Json) (nowUtc expiresAfterUtc : Int64) :
    trailerExpiry? action (packHelper action nowUtc expiresAfterUtc) =
      if expiresAfterUtc ≠ 0 ∧ expiresAfterUtc ≠ nowUtc then some expiresAfterUtc
      else none := by
  rw [trailerExpiry?, drop_packHelper]
  split_ifs with h
  · simp
  · rfl

/-- The signed bytes and the body agree on the expiry: one has it exactly when the other
does, and then with the same value. -/
def ExpiryAgrees (action : Json) (packed : List UInt8) (body : Body) : Prop :=
  (trailerExpiry? action packed).isSome = (Body.expiresAfter? body).isSome ∧
    ∀ signed sent, trailerExpiry? action packed = some signed →
      Body.expiresAfter? body = some sent → signed = sent

/-- The expiry that is signed is the expiry that is sent exactly for an expiry that is
neither zero nor equal to the time of the request. -/
theorem expiryAgrees_iff (eth : Eth) (crypto : Crypto) (lib : Library)
    (action : Json) (nowUtc expiresAfterUtc : Int64) :
    ExpiryAgrees action (packHelper action nowUtc expiresAfterUtc)
        (signL1Action eth crypto (lib.dump action)
          (packHelper action nowUtc expiresAfterUtc) nowUtc expiresAfterUtc).1 ↔
      expiresAfterUtc ≠ 0 ∧ expiresAfterUtc ≠ nowUtc := by
  rw [ExpiryAgrees, trailerExpiry?_packHelper, expiresAfter?_signL1Action]
  by_cases h : expiresAfterUtc ≠ 0 ∧ expiresAfterUtc ≠ nowUtc
  · rw [if_pos h]
    constructor
    · intro _
      exact h
    · intro _
      refine ⟨rfl, ?_⟩
      intro signed sent hsigned hsent
      rw [← Option.some.inj hsigned, ← Option.some.inj hsent]
  · rw [if_neg h]
    constructor
    · intro hagree
      cases hagree.1
    · intro hcondition
      exact absurd hcondition h

/-- Without a receive window the expiry is the time of the request, here `123`: nothing
is signed for it, and the body sends it. -/
theorem expiry_unsigned_without_window :
    ¬ ∀ (eth : Eth) (crypto : Crypto) (lib : Library) (action : Json)
      (nowUtc expiresAfterUtc : Int64),
      ExpiryAgrees action (packHelper action nowUtc expiresAfterUtc)
        (signL1Action eth crypto (lib.dump action)
          (packHelper action nowUtc expiresAfterUtc) nowUtc expiresAfterUtc).1 := by
  intro h
  have hagree := h ⟨fun bytes ↦ bytes, fun _ _ ↦ ⟨[], [], 27⟩⟩ (Crypto.create "0x0")
    ⟨fun _ ↦ .ok 0, "", fun _ ↦ "null"⟩ .null 123 123
  rw [ExpiryAgrees, trailerExpiry?_packHelper, expiresAfter?_signL1Action] at hagree
  cases hagree.1

end Hyperliquid.Tools
