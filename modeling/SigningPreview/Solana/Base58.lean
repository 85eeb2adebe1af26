import SigningPreview.Address
import SigningPreview.Radix

/-! # Base 58

Bytes are written as the digits of one number in base 58, with Bitcoin's alphabet. Zero bytes at the
front would not show in that number: each is written as one more `1`, the digit zero. -/
namespace SigningPreview.Solana.Base58

/-- The digits, by value: the letters and figures of ASCII without `0`, `O`, `I` and `l`. -/
def alphabet : List Char :=
  "123456789ABCDEFGHJKLMNPQRSTUVWXYZabcdefghijkmnopqrstuvwxyz".toList

/-- The digit of a value. -/
def digit (n : Nat) : Char := alphabet.getD n '1'

/-- The value of a digit. -/
def digitValue? (b : UInt8) : Option Nat := alphabet.findIdx? fun c => c.toNat = b.toNat

/-- The values of the digits; `position` counts the bytes before them. -/
def values (position : Nat) : List UInt8 → Except Base58Error (List Nat)
  | [] => .ok []
  | b :: bs =>
    if 0x80 ≤ b.toNat then .error (.notAscii position)
    else
      match digitValue? b with
      | none => .error (.notInAlphabet b position)
      | some n => (values (position + 1) bs).map (n :: ·)

/-- A number in another base, with one leading zero for each that it had. -/
def rebase (source target : Nat) (ds : List Nat) : List Nat :=
  List.replicate (ds.takeWhile (· = 0)).length 0 ++ Radix.digits target (Radix.value source ds)

/-- The bytes that base 58 digits denote. -/
def decode (text : List UInt8) : Except Base58Error (List UInt8) :=
  (values 0 text).map fun ds => (rebase 58 256 ds).map UInt8.ofNat

def encode (bytes : List UInt8) : List Char :=
  (rebase 256 58 (bytes.map UInt8.toNat)).map digit

end SigningPreview.Solana.Base58
