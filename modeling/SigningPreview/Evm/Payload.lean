import SigningPreview.Amount
import SigningPreview.Asset
import SigningPreview.Evm.Address
import SigningPreview.Kind

/-! # EVM payloads

The eight things that a record of an EVM chain can say, and the data object that says them. A data
object has a place for each; when several are taken, approvals count before transfers, which is how
`Data.kinds` lists them and `Data.payload?` decides. -/
namespace SigningPreview.Evm

/-- A transfer of an ERC-20 token or of the chain's own coin. -/
structure FungibleTransfer where
  amount : BalanceChange
  contract : Party
  asset : Asset
  deriving DecidableEq

structure Erc721Transfer where
  amount : BalanceChange
  contract : Party
  metadata : Metadata
  name : String
  symbol : String
  tokenId : Option String
  price : Option Price
  deriving DecidableEq

structure Erc1155Transfer where
  amount : BalanceChange
  contract : Party
  metadata : Metadata
  name : String
  tokenId : Option String
  price : Option Price
  deriving DecidableEq

structure Erc20Approval where
  amount : BalanceChange
  asset : Asset
  contract : Party
  owner : Party
  spender : Party
  deriving DecidableEq

/-- An approval of one token of a collection. -/
structure Erc721Approval where
  amount : BalanceChange
  contract : Party
  metadata : Metadata
  name : String
  owner : Party
  spender : Party
  symbol : String
  tokenId : Option String
  price : Option Price
  deriving DecidableEq

/-- An approval of all tokens of an ERC-721 collection. -/
structure Erc721Operator where
  amount : BalanceChange
  contract : Party
  name : String
  owner : Party
  spender : Party
  symbol : String
  price : Option Price
  deriving DecidableEq

/-- An approval of all tokens of an ERC-1155 collection. -/
structure Erc1155Operator where
  amount : BalanceChange
  contract : Party
  owner : Party
  spender : Party
  price : Option Price
  deriving DecidableEq

inductive Payload where
  | erc20Transfer (t : FungibleTransfer)
  | erc721Transfer (t : Erc721Transfer)
  | erc1155Transfer (t : Erc1155Transfer)
  | nativeTransfer (t : FungibleTransfer)
  | erc20Approval (a : Erc20Approval)
  | erc721Approval (a : Erc721Approval)
  | erc721Operator (a : Erc721Operator)
  | erc1155Operator (a : Erc1155Operator)
  deriving DecidableEq

namespace Payload

def kind : Payload → PayloadKind
  | erc20Transfer _ => .erc20Transfer
  | erc721Transfer _ => .erc721Transfer
  | erc1155Transfer _ => .erc1155Transfer
  | nativeTransfer _ => .nativeAssetTransfer
  | erc20Approval _ => .erc20Approval
  | erc721Approval _ => .erc721Approval
  | erc721Operator _ => .erc721ApprovalForAll
  | erc1155Operator _ => .erc1155ApprovalForAll

/-- The balance or allowance that changes. -/
def amount : Payload → BalanceChange
  | erc20Transfer t => t.amount
  | erc721Transfer t => t.amount
  | erc1155Transfer t => t.amount
  | nativeTransfer t => t.amount
  | erc20Approval a => a.amount
  | erc721Approval a => a.amount
  | erc721Operator a => a.amount
  | erc1155Operator a => a.amount

/-- The addresses a payload mentions. -/
def addresses : Payload → List String
  | erc20Transfer t => [t.contract.address, t.asset.address]
  | nativeTransfer t => [t.contract.address, t.asset.address]
  | erc721Transfer t => [t.contract.address]
  | erc1155Transfer t => [t.contract.address]
  | erc20Approval a =>
    [a.contract.address, a.asset.address, a.owner.address, a.spender.address]
  | erc721Approval a => [a.contract.address, a.owner.address, a.spender.address]
  | erc721Operator a => [a.contract.address, a.owner.address, a.spender.address]
  | erc1155Operator a => [a.contract.address, a.owner.address, a.spender.address]

end Payload

/-- A data object: a place for each payload. -/
structure Data where
  erc20Transfer : Option FungibleTransfer
  erc721Transfer : Option Erc721Transfer
  erc1155Transfer : Option Erc1155Transfer
  nativeTransfer : Option FungibleTransfer
  erc20Approval : Option Erc20Approval
  erc721Approval : Option Erc721Approval
  erc721Operator : Option Erc721Operator
  erc1155Operator : Option Erc1155Operator
  deriving DecidableEq

namespace Data

def empty : Data := ⟨none, none, none, none, none, none, none, none⟩

/-- The kinds of the payloads of a data object, the one that counts first. -/
def kinds (d : Data) : List PayloadKind :=
  PayloadKind.ofPlaces [(d.erc20Approval.isSome, .erc20Approval),
    (d.erc721Approval.isSome, .erc721Approval), (d.erc721Operator.isSome, .erc721ApprovalForAll),
    (d.erc1155Operator.isSome, .erc1155ApprovalForAll), (d.erc20Transfer.isSome, .erc20Transfer),
    (d.erc721Transfer.isSome, .erc721Transfer),
    (d.erc1155Transfer.isSome, .erc1155Transfer), (d.nativeTransfer.isSome, .nativeAssetTransfer)]

/-- The payload of a data object that counts. -/
def payload? (d : Data) : Option Payload :=
  if let some a := d.erc20Approval then some (.erc20Approval a)
  else if let some a := d.erc721Approval then some (.erc721Approval a)
  else if let some a := d.erc721Operator then some (.erc721Operator a)
  else if let some a := d.erc1155Operator then some (.erc1155Operator a)
  else if let some t := d.erc20Transfer then some (.erc20Transfer t)
  else if let some t := d.erc721Transfer then some (.erc721Transfer t)
  else if let some t := d.erc1155Transfer then some (.erc1155Transfer t)
  else if let some t := d.nativeTransfer then some (.nativeTransfer t)
  else none

/-- The data object that holds one payload or none. -/
def ofPayload : Option Payload → Data
  | none => empty
  | some (.erc20Transfer t) => { empty with erc20Transfer := some t }
  | some (.erc721Transfer t) => { empty with erc721Transfer := some t }
  | some (.erc1155Transfer t) => { empty with erc1155Transfer := some t }
  | some (.nativeTransfer t) => { empty with nativeTransfer := some t }
  | some (.erc20Approval a) => { empty with erc20Approval := some a }
  | some (.erc721Approval a) => { empty with erc721Approval := some a }
  | some (.erc721Operator a) => { empty with erc721Operator := some a }
  | some (.erc1155Operator a) => { empty with erc1155Operator := some a }

theorem payload?_ofPayload (p : Option Payload) : (ofPayload p).payload? = p := by
  cases p with
  | none => rfl
  | some p => cases p <;> rfl

end Data

end SigningPreview.Evm
