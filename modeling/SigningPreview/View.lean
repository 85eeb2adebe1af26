import SigningPreview.Label.Account
import SigningPreview.Label.Quantity
import SigningPreview.Label.Token
import SigningPreview.Record

/-! # What is shown of an effect

A view holds the texts that a confirmation screen shows of one effect. An effect that is not
recognized has none; an EVM effect whose amounts cannot be read has an error instead. -/
namespace SigningPreview

/-- Which way assets move, as seen from the user's account. -/
inductive Direction where
  | send
  | receive
  deriving DecidableEq

namespace Direction

/-- A balance that grows receives; one that stays as it is counts as sending. -/
def ofDelta (delta : Int) : Direction := if 0 < delta then .receive else .send

def ofMovement (m : Movement) : Direction := if m.isDecrease then .send else .receive

def word : Direction → String
  | send => "Send"
  | receive => "Receive"

def mark : Direction → String
  | send => "-"
  | receive => "+"

end Direction

/-- What a stake account lets someone do. -/
inductive StakeRole where
  | staker
  | withdrawer
  deriving DecidableEq

def StakeRole.word : StakeRole → String
  | staker => "Staker"
  | withdrawer => "Withdrawer"

/-- A role passes from one account to another. -/
structure RoleChange where
  role : StakeRole
  old : String
  new : String
  deriving DecidableEq

namespace View

structure Transfer where
  direction : Direction
  amount : String
  /-- The standing of the asset. -/
  verification : Option String
  /-- Where more can be learned of the asset. -/
  contract : Option String
  deriving DecidableEq

structure Approval where
  spender : String
  before : Option String
  after : String
  deriving DecidableEq

structure Authority where
  account : String
  staked : String
  changes : List RoleChange
  deriving DecidableEq

end View

inductive View where
  | transfer (t : View.Transfer)
  | approval (a : View.Approval)
  | authority (s : View.Authority)
  deriving DecidableEq

/-- The category a view belongs to. -/
def View.category : View → Category
  | transfer _ => .transfer
  | approval _ => .approval
  | authority _ => .stakeAuthorityChange

/-! ## EVM -/

namespace Evm

/-- A transfer of a fungible asset. The chain's own coin has no contract. -/
def fungibleView (amount : BalanceChange) (asset : Asset) : Except AmountError View := do
  let delta ← amount.delta
  pure <| .transfer
    { direction := .ofDelta delta
      amount := Label.quantity delta.natAbs asset.decimals.toNat asset.symbol
      verification := some asset.standing
      contract := if isNativeAsset asset.address then none else some asset.address }

/-- A transfer of a token of a collection. Without an identifier the tokens are counted. -/
def tokenView (amount : BalanceChange) (contract name : String) (tokenId : Option String) :
    Except AmountError View := do
  let (before, after) ← amount.values
  let name := if name = "" then "???" else name
  pure <| .transfer
    { direction := if before < after then .receive else .send
      amount :=
        match tokenId.filter (· ≠ "") with
        | some id => Label.token name id
        | none => Label.quantity ((after : Int) - before).natAbs 0 name
      verification := none
      contract := if contract = "" then none else some contract }

/-- An approval of a spender. `operator` is set where it extends to a whole collection. -/
def approvalView (amount : BalanceChange) (spender : String) (decimals : Nat) (symbol : String)
    (operator : Bool) : Except AmountError View := do
  let before ← Label.allowance amount.before decimals symbol operator
  let after ← Label.allowance amount.after decimals symbol operator
  pure <| .approval { spender := Label.abbreviate spender, before := some before, after }

def Payload.view : Payload → Except AmountError View
  | erc20Transfer t => fungibleView t.amount t.asset
  | nativeTransfer t => fungibleView t.amount t.asset
  | erc721Transfer t => tokenView t.amount t.contract.address t.name t.tokenId
  | erc1155Transfer t => tokenView t.amount t.contract.address t.name t.tokenId
  | erc20Approval a =>
    approvalView a.amount a.spender.address a.asset.decimals.toNat a.asset.symbol false
  | erc721Approval a => approvalView a.amount a.spender.address 0 a.symbol false
  | erc721Operator a => approvalView a.amount a.spender.address 0 a.symbol true
  | erc1155Operator a => approvalView a.amount a.spender.address 0 "" true

end Evm

/-! ## Solana -/

namespace Solana

/-- The roles that pass to another account. -/
def AuthorityChange.roleChanges (c : AuthorityChange) : List RoleChange :=
  [⟨.staker, c.current.staker, c.future.staker⟩,
    ⟨.withdrawer, c.current.withdrawer, c.future.withdrawer⟩].filter fun change =>
      change.old ≠ change.new

def Payload.view : Payload → View
  | solTransfer t => .transfer
    { direction := .ofMovement t.movement
      amount := Label.quantity t.movement.size.toNat t.decimals.toNat t.symbol
      verification := some "This token is verified"
      contract := none }
  | splTransfer t => .transfer
    { direction := .ofMovement t.movement
      amount :=
        if isNonFungible t.standard then t.name
        else Label.quantity t.movement.size.toNat t.decimals.toNat t.symbol
      verification := none
      contract := some t.mint }
  | splApproval a => .approval
    { spender := Label.abbreviate a.delegate
      before := none
      after := Label.quantity a.movement.size.toNat a.decimals.toNat a.symbol }
  | authorityChange c => .authority
    { account := c.account
      staked := Label.quantity c.staked.toNat c.decimals.toNat c.symbol
      changes := c.roleChanges }

end Solana

/-- The view of a payload. -/
def Chain.view : (c : Chain) → c.Payload → Except AmountError View
  | .evm, p => Evm.Payload.view p
  | .svm, p => .ok (Solana.Payload.view p)

/-- The view of an effect; an effect that is not recognized has none. -/
def Effect.view {c : Chain} (e : Effect c) : Except AmountError (Option View) :=
  match e.payload with
  | none => .ok none
  | some p => (c.view p).map some

end SigningPreview
