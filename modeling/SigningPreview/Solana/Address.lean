import SigningPreview.Solana.Base58
import SigningPreview.Text.Utf8

/-! # Solana addresses

Thirty-two bytes, written in base 58. -/
namespace SigningPreview.Solana

/-- An account of the Solana chain. -/
structure Address where
  bytes : List UInt8
  length_eq : bytes.length = 32
  deriving DecidableEq

namespace Address

/-- The address a text denotes. -/
def ofText (text : String) : Except AddressError Address :=
  match Base58.decode (Text.utf8 text.toList) with
  | .error cause => .error (.notBase58 text cause)
  | .ok bytes =>
    if h : bytes.length = 32 then .ok ⟨bytes, h⟩
    else .error (.wrongLength text bytes.length 32)

/-- An address as it is written. -/
def text (a : Address) : String := String.ofList (Base58.encode a.bytes)

/-- An address as traces show it. -/
def inspect (a : Address) : String := "solana(" ++ a.text ++ ")"

end Address

end SigningPreview.Solana
