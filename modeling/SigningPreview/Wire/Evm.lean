import SigningPreview.Evm.Payload
import SigningPreview.Wire.Basic

/-! # How EVM payloads are written

Every field of a payload may be `null` or left out. In a data object the places that are not taken
are left out when it is written. -/
namespace SigningPreview.Evm

open Json (Layout)
open Json.Field (nullable optional omitted)
open Wire (textField priceField)

/-! ## Fields that several payloads have -/

def amountField : Json.Field BalanceChange := nullable "amount" BalanceChange.layout.codec .blank

def assetField : Json.Field Asset := nullable "asset" Asset.layout.codec .blank

/-- A party in some role. -/
def partyField (role : String) : Json.Field Party := nullable role Party.layout.codec .blank

def metadataField : Json.Field Metadata := nullable "metadata" Metadata.layout.codec .blank

def tokenIdField : Json.Field (Option String) := optional "tokenId" .text

/-! ## Payloads -/

/-- Transfers of tokens and of the chain's own coin differ in what messages call them. -/
def FungibleTransfer.layout (name : String) : Layout FungibleTransfer where
  name := name
  fields := .cons amountField <| .cons (partyField "contract") <| .cons assetField .nil
  ofValues | (amount, contract, asset, ()) => ⟨amount, contract, asset⟩
  toValues t := (t.amount, t.contract, t.asset, ())

def Erc20Transfer.layout : Layout FungibleTransfer := FungibleTransfer.layout "Erc20TransferData"

def NativeTransfer.layout : Layout FungibleTransfer :=
  FungibleTransfer.layout "NativeAssetTransferData"

def Erc721Transfer.layout : Layout Erc721Transfer where
  name := "Erc721TransferData"
  fields := .cons amountField <| .cons (partyField "contract") <| .cons metadataField <|
    .cons (textField "name") <| .cons (textField "symbol") <| .cons tokenIdField <|
    .cons priceField .nil
  ofValues
    | (amount, contract, metadata, name, symbol, tokenId, price, ()) =>
      ⟨amount, contract, metadata, name, symbol, tokenId, price⟩
  toValues t := (t.amount, t.contract, t.metadata, t.name, t.symbol, t.tokenId, t.price, ())

def Erc1155Transfer.layout : Layout Erc1155Transfer where
  name := "Erc1155TransferData"
  fields := .cons amountField <| .cons (partyField "contract") <| .cons metadataField <|
    .cons (textField "name") <| .cons tokenIdField <| .cons priceField .nil
  ofValues
    | (amount, contract, metadata, name, tokenId, price, ()) =>
      ⟨amount, contract, metadata, name, tokenId, price⟩
  toValues t := (t.amount, t.contract, t.metadata, t.name, t.tokenId, t.price, ())

def Erc20Approval.layout : Layout Erc20Approval where
  name := "Erc20ApprovalData"
  fields := .cons amountField <| .cons assetField <| .cons (partyField "contract") <|
    .cons (partyField "owner") <| .cons (partyField "spender") .nil
  ofValues
    | (amount, asset, contract, owner, spender, ()) => ⟨amount, asset, contract, owner, spender⟩
  toValues a := (a.amount, a.asset, a.contract, a.owner, a.spender, ())

def Erc721Approval.layout : Layout Erc721Approval where
  name := "Erc721ApprovalData"
  fields := .cons amountField <| .cons (partyField "contract") <| .cons metadataField <|
    .cons (textField "name") <| .cons (partyField "owner") <| .cons (partyField "spender") <|
    .cons (textField "symbol") <| .cons tokenIdField <| .cons priceField .nil
  ofValues
    | (amount, contract, metadata, name, owner, spender, symbol, tokenId, price, ()) =>
      ⟨amount, contract, metadata, name, owner, spender, symbol, tokenId, price⟩
  toValues a :=
    (a.amount, a.contract, a.metadata, a.name, a.owner, a.spender, a.symbol, a.tokenId, a.price, ())

def Erc721Operator.layout : Layout Erc721Operator where
  name := "Erc721ApprovalForAllData"
  fields := .cons amountField <| .cons (partyField "contract") <| .cons (textField "name") <|
    .cons (partyField "owner") <| .cons (partyField "spender") <| .cons (textField "symbol") <|
    .cons priceField .nil
  ofValues
    | (amount, contract, name, owner, spender, symbol, price, ()) =>
      ⟨amount, contract, name, owner, spender, symbol, price⟩
  toValues a := (a.amount, a.contract, a.name, a.owner, a.spender, a.symbol, a.price, ())

def Erc1155Operator.layout : Layout Erc1155Operator where
  name := "Erc1155ApprovalForAllData"
  fields := .cons amountField <| .cons (partyField "contract") <| .cons (partyField "owner") <|
    .cons (partyField "spender") <| .cons priceField .nil
  ofValues
    | (amount, contract, owner, spender, price, ()) => ⟨amount, contract, owner, spender, price⟩
  toValues a := (a.amount, a.contract, a.owner, a.spender, a.price, ())

/-! ## Data objects -/

def Data.layout : Layout Data where
  name := "EvmStateChangeData"
  fields := .cons (omitted "erc20TransferData" Erc20Transfer.layout.codec) <|
    .cons (omitted "erc721TransferData" Erc721Transfer.layout.codec) <|
    .cons (omitted "erc1155TransferData" Erc1155Transfer.layout.codec) <|
    .cons (omitted "nativeAssetTransferData" NativeTransfer.layout.codec) <|
    .cons (omitted "erc20ApprovalData" Erc20Approval.layout.codec) <|
    .cons (omitted "erc721ApprovalData" Erc721Approval.layout.codec) <|
    .cons (omitted "erc721ApprovalForAllData" Erc721Operator.layout.codec) <|
    .cons (omitted "erc1155ApprovalForAllData" Erc1155Operator.layout.codec) .nil
  ofValues
    | (erc20Transfer, erc721Transfer, erc1155Transfer, nativeTransfer, erc20Approval,
        erc721Approval, erc721Operator, erc1155Operator, ()) =>
      ⟨erc20Transfer, erc721Transfer, erc1155Transfer, nativeTransfer, erc20Approval,
        erc721Approval, erc721Operator, erc1155Operator⟩
  toValues d :=
    (d.erc20Transfer, d.erc721Transfer, d.erc1155Transfer, d.nativeTransfer, d.erc20Approval,
      d.erc721Approval, d.erc721Operator, d.erc1155Operator, ())

end SigningPreview.Evm
