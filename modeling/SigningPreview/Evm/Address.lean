import SigningPreview.Address
import SigningPreview.Text.Utf8

/-! # EVM addresses

Twenty bytes, written `0x` and forty hexadecimal digits. Digits of either case and the marker `0X`
are read; an address is written in lower case. -/
namespace SigningPreview.Evm

/-- A value of four bits. -/
abbrev Nibble := Fin 16

/-- The value of an ASCII hexadecimal digit. -/
def Nibble.ofDigit? (b : UInt8) : Option Nibble :=
  if 0x30 ≤ b.toNat ∧ b.toNat ≤ 0x39 then some (Fin.ofNat 16 (b.toNat - 0x30))
  else if 0x61 ≤ b.toNat ∧ b.toNat ≤ 0x66 then some (Fin.ofNat 16 (b.toNat - 0x61 + 10))
  else if 0x41 ≤ b.toNat ∧ b.toNat ≤ 0x46 then some (Fin.ofNat 16 (b.toNat - 0x41 + 10))
  else none

/-- The lower-case digit of a value. -/
def Nibble.digit (n : Nibble) : Char := Nat.digitChar n.val

namespace Hex

/-- The values of hexadecimal digits; `position` counts the bytes before them. -/
def nibbles (position : Nat) : List UInt8 → Except HexError (List Nibble)
  | [] => .ok []
  | b :: bs =>
    match Nibble.ofDigit? b with
    | none => .error (.notADigit b position)
    | some n => (nibbles (position + 1) bs).map (n :: ·)

/-- Two nibbles make a byte, the high one first. -/
def pairUp : List Nibble → List UInt8
  | high :: low :: rest => UInt8.ofNat (16 * high.val + low.val) :: pairUp rest
  | _ => []

/-- The bytes that hexadecimal digits denote. An odd number of digits is refused before any digit
is looked at. -/
def decode (text : List UInt8) : Except HexError (List UInt8) :=
  if text.length % 2 = 1 then .error .oddLength else (nibbles 0 text).map pairUp

/-- A byte as two digits. -/
def encodeByte (b : UInt8) : List Char :=
  [Nibble.digit (Fin.ofNat 16 (b.toNat / 16)), Nibble.digit (Fin.ofNat 16 b.toNat)]

def encode (bytes : List UInt8) : List Char := bytes.flatMap encodeByte

end Hex

/-- An account or contract of an EVM chain. -/
structure Address where
  bytes : List UInt8
  length_eq : bytes.length = 20
  deriving DecidableEq

namespace Address

/-- The text after the marker `0x` or `0X`. -/
def stripMarker? : List Char → Option (List Char)
  | '0' :: 'x' :: rest => some rest
  | '0' :: 'X' :: rest => some rest
  | _ => none

/-- The address a text denotes. -/
def ofText (text : String) : Except AddressError Address :=
  match stripMarker? text.toList with
  | none => .error (.missingMarker text)
  | some rest =>
    match Hex.decode (Text.utf8 rest) with
    | .error cause => .error (.notHex text cause)
    | .ok bytes =>
      if h : bytes.length = 20 then .ok ⟨bytes, h⟩
      else .error (.wrongLength text bytes.length 20)

/-- An address as it is written. -/
def text (a : Address) : String := String.ofList ('0' :: 'x' :: Hex.encode a.bytes)

/-- An address as traces show it. -/
def inspect (a : Address) : String := "evm(" ++ a.text ++ ")"

end Address

/-- The usual spelling of the address that stands for the chain's own coin. -/
def nativeAsset : String := "0xeeeeeeeeeeeeeeeeeeeeeeeeeeeeeeeeeeeeeeee"

/-- Whether an address field stands for the chain's own coin: it is empty, or spells the coin's
address in any mixture of cases. -/
def isNativeAsset (address : String) : Bool :=
  address.toList.isEmpty ||
    address.toList.map Char.toLower == nativeAsset.toList.map Char.toLower

end SigningPreview.Evm
