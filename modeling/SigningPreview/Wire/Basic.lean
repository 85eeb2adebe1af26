import SigningPreview.Amount
import SigningPreview.Asset
import SigningPreview.Json.Record
import SigningPreview.Kind
import SigningPreview.Movement

/-! # How amounts, tags, parties and assets are written

The JSON forms of what payloads are made of. A provider writes `null` for what it could not resolve,
so every field here may be `null` or left out. -/
namespace SigningPreview

open Json (Codec Layout)
open Json.Field (nullable optional)

/-- A text that may be `null`, which stands for the empty text. -/
def Wire.textField (name : String) : Json.Field String := nullable name .text ""

/-- How many decimals an asset has. -/
def Wire.decimalsField : Json.Field UInt32 := nullable "decimals" .word32 0

open Wire (textField decimalsField)

/-! ## Scalars -/

/-- An amount is written as its text. -/
def Amount.codec : Codec Amount := Codec.text.map Amount.mk Amount.text

/-- A sign is written as its word. -/
def Sign.codec : Codec Sign := Codec.text.map Sign.ofWord Sign.word

/-- A tag is written as its text. -/
def Tag.codec : Codec Tag := Codec.text.map Tag.ofText Tag.written

/-! ## Records -/

def BalanceChange.layout : Layout BalanceChange where
  name := "AmountChange"
  fields := .cons (nullable "before" Amount.codec ⟨""⟩) <|
    .cons (nullable "after" Amount.codec ⟨""⟩) .nil
  ofValues | (before, after, ()) => ⟨before, after⟩
  toValues b := (b.before, b.after, ())

def Movement.layout : Layout Movement where
  name := "SignedDiff"
  fields := .cons (nullable "sign" Sign.codec .plus) <| .cons (nullable "digits" .word64 0) .nil
  ofValues | (sign, size, ()) => ⟨sign, size⟩
  toValues m := (m.sign, m.size, ())

def Party.layout : Layout Party where
  name := "AddressRef"
  fields := .cons (textField "address") <| .cons (textField "kind") .nil
  ofValues | (address, kind, ()) => ⟨address, kind⟩
  toValues p := (p.address, p.kind, ())

def Price.layout : Layout Price where
  name := "AssetPrice"
  fields := .cons (textField "source") <| .cons (textField "lastUpdatedAt") <|
    .cons (textField "dollarValuePerToken") .nil
  ofValues | (source, updatedAt, dollars, ()) => ⟨source, updatedAt, dollars⟩
  toValues p := (p.source, p.updatedAt, p.dollars, ())

def Asset.layout : Layout Asset where
  name := "Asset"
  fields := .cons (textField "address") <| .cons (textField "symbol") <|
    .cons (textField "name") <| .cons decimalsField <| .cons (nullable "verified" .bool false) <|
    .cons (nullable "lists" (.list .text) []) <| .cons (optional "imageUrl" .text) <|
    .cons (optional "price" Price.layout.codec) .nil
  ofValues
    | (address, symbol, name, decimals, verified, lists, imageUrl, price, ()) =>
      ⟨address, symbol, name, decimals, verified, lists, imageUrl, price⟩
  toValues a :=
    (a.address, a.symbol, a.name, a.decimals, a.verified, a.lists, a.imageUrl, a.price, ())

def Metadata.layout : Layout Metadata where
  name := "NftMetadata"
  fields := .cons (textField "rawImageUrl") .nil
  ofValues | (imageUrl, ()) => ⟨imageUrl⟩
  toValues m := (m.imageUrl, ())

/-- What a token of a payload's collection is worth. -/
def Wire.priceField : Json.Field (Option Price) := optional "assetPrice" Price.layout.codec

end SigningPreview
