import SigningPreview.Text.Quoted

/-! # Address errors

Both ecosystems write addresses as text for a fixed number of bytes. A text that is no address is
refused with the first thing that is wrong with it. -/
namespace SigningPreview

/-- What keeps a text from being hexadecimal. -/
inductive HexError where
  | oddLength
  /-- The byte at this position is no digit. -/
  | notADigit (byte : UInt8) (position : Nat)
  deriving DecidableEq

/-- What keeps a text from being base 58. -/
inductive Base58Error where
  /-- The byte at this position is ASCII and outside the alphabet. -/
  | notInAlphabet (byte : UInt8) (position : Nat)
  /-- A character that is not ASCII starts at this position. -/
  | notAscii (position : Nat)
  deriving DecidableEq

/-- Why a text is not an address. -/
inductive AddressError where
  | missingMarker (text : String)
  | notHex (text : String) (cause : HexError)
  | notBase58 (text : String) (cause : Base58Error)
  | wrongLength (text : String) (found expected : Nat)
  deriving DecidableEq

/-- A byte is shown as the character with its number. -/
def HexError.message : HexError → String
  | .oddLength => "Odd number of digits"
  | .notADigit byte position =>
    "Invalid character " ++ Text.quotedChar (Char.ofNat byte.toNat) ++ " at position "
      ++ position.repr

def Base58Error.message : Base58Error → String
  | .notInAlphabet byte position =>
    "provided string contained invalid character " ++ Text.quotedChar (Char.ofNat byte.toNat)
      ++ " at byte " ++ position.repr
  | .notAscii position =>
    "provided string contained non-ascii character starting at byte " ++ position.repr

def AddressError.message : AddressError → String
  | .missingMarker text => "EVM address '" ++ text ++ "' must start with 0x"
  | .notHex text cause => "EVM address '" ++ text ++ "' is not valid hex: " ++ cause.message
  | .notBase58 text cause =>
    "Solana address '" ++ text ++ "' is not valid base58: " ++ cause.message
  | .wrongLength text found expected =>
    "Address '" ++ text ++ "' decodes to " ++ found.repr ++ " bytes, expected " ++ expected.repr

end SigningPreview
