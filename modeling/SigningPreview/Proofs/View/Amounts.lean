import Mathlib.Data.Nat.Dist
import SigningPreview.Proofs.Label.Allowance
import SigningPreview.View

/-! # A view sees its amounts as numbers

The view of an EVM payload reads both sides of a balance change, and from then on nothing but the
two numbers matters: `Payload.shows` makes the view from them, and `Payload.view_eq_map` says that
it is the view that is shown. A transfer asks less of them still, namely which one is greater and
how far they are apart (`movement`); the path over a signed difference and the path that compares
the two sides come to the same (`ofDelta_sub`, `natAbs_sub_eq_dist`). -/
namespace SigningPreview

/-! ## Two numbers -/

namespace Direction

/-- Which way a balance goes from one number to another. -/
def between (before after : Nat) : Direction := if before < after then .receive else .send

theorem between_eq_receive_iff {before after : Nat} :
    between before after = .receive ↔ before < after := by
  unfold between
  split <;> simp_all

theorem ofDelta_sub (before after : Nat) :
    ofDelta ((after : Int) - before) = between before after := by
  have grows : 0 < (after : Int) - before ↔ before < after := by omega
  simp only [ofDelta, between, grows]

end Direction

theorem natAbs_sub_eq_dist (before after : Nat) :
    ((after : Int) - before).natAbs = Nat.dist before after := by
  unfold Nat.dist
  omega

namespace Evm

/-! ## Views by number -/

/-- A transfer of a balance that goes from one number to another. How far it goes decides what is
shown for an amount. -/
def movement (before after : Nat) (amount : Nat → String)
    (verification contract : Option String) : View.Transfer :=
  { direction := .between before after
    amount := amount (Nat.dist before after)
    verification
    contract }

/-- The same transfer by way of the signed difference. -/
theorem movement_eq (before after : Nat) (amount : Nat → String)
    (verification contract : Option String) :
    movement before after amount verification contract =
      { direction := .ofDelta ((after : Int) - before)
        amount := amount ((after : Int) - before).natAbs
        verification
        contract } := by
  rw [Direction.ofDelta_sub, natAbs_sub_eq_dist]
  rfl

/-- The name of a collection, which is never empty. -/
def collectionName (name : String) : String := if name = "" then "???" else name

/-- A token of a collection by its identifier, or as many tokens as there are. -/
def tokenAmount (name : String) (tokenId : Option String) (count : Nat) : String :=
  match tokenId.filter (· ≠ "") with
  | some id => Label.token (collectionName name) id
  | none => Label.quantity count 0 (collectionName name)

/-- An approval that goes from one number to another. -/
def approval (before after : Nat) (spender : String) (decimals : Nat) (symbol : String)
    (operator : Bool) : View.Approval :=
  { spender := Label.abbreviate spender
    before := some (Label.allowanceLabel before decimals symbol operator)
    after := Label.allowanceLabel after decimals symbol operator }

theorem fungibleView_eq_map (b : BalanceChange) (asset : Asset) :
    fungibleView b asset = b.values.map fun (before, after) =>
      .transfer (movement before after
        (fun n => Label.quantity n asset.decimals.toNat asset.symbol) (some asset.standing)
        (if isNativeAsset asset.address then none else some asset.address)) := by
  unfold fungibleView BalanceChange.delta
  cases b.values with
  | error e => rfl
  | ok values =>
    obtain ⟨before, after⟩ := values
    have same := movement_eq before after
      (fun n => Label.quantity n asset.decimals.toNat asset.symbol) (some asset.standing)
      (if isNativeAsset asset.address then none else some asset.address)
    exact congrArg (fun t => Except.ok (View.transfer t)) same.symm

theorem tokenView_eq_map (b : BalanceChange) (contract name : String) (tokenId : Option String) :
    tokenView b contract name tokenId = b.values.map fun (before, after) =>
      .transfer (movement before after (tokenAmount name tokenId) none
        (if contract = "" then none else some contract)) := by
  unfold tokenView
  cases b.values with
  | error e => rfl
  | ok values =>
    obtain ⟨before, after⟩ := values
    change Except.ok (View.transfer ⟨.between before after,
      tokenAmount name tokenId ((after : Int) - before).natAbs, none, _⟩) = _
    rw [natAbs_sub_eq_dist]
    rfl

/-- An approval words its sides one by one, but reads them in the same order. -/
theorem approvalView_eq_map (b : BalanceChange) (spender : String) (decimals : Nat)
    (symbol : String) (operator : Bool) :
    approvalView b spender decimals symbol operator = b.values.map fun (before, after) =>
      .approval (approval before after spender decimals symbol operator) := by
  unfold approvalView BalanceChange.values
  rw [Label.allowance_eq_map, Label.allowance_eq_map]
  cases b.before.value with
  | error e => rfl
  | ok before =>
    cases b.after.value with
    | error e => rfl
    | ok after => rfl

namespace Payload

/-- The view of a payload, made from the numbers its amounts are read as. -/
def shows : Payload → Nat × Nat → View
  | erc20Transfer t | nativeTransfer t => fun (before, after) =>
    .transfer (movement before after
      (fun n => Label.quantity n t.asset.decimals.toNat t.asset.symbol) (some t.asset.standing)
      (if isNativeAsset t.asset.address then none else some t.asset.address))
  | erc721Transfer t => fun (before, after) =>
    .transfer (movement before after (tokenAmount t.name t.tokenId) none
      (if t.contract.address = "" then none else some t.contract.address))
  | erc1155Transfer t => fun (before, after) =>
    .transfer (movement before after (tokenAmount t.name t.tokenId) none
      (if t.contract.address = "" then none else some t.contract.address))
  | erc20Approval a => fun (before, after) =>
    .approval (approval before after a.spender.address a.asset.decimals.toNat a.asset.symbol false)
  | erc721Approval a => fun (before, after) =>
    .approval (approval before after a.spender.address 0 a.symbol false)
  | erc721Operator a => fun (before, after) =>
    .approval (approval before after a.spender.address 0 a.symbol true)
  | erc1155Operator a => fun (before, after) =>
    .approval (approval before after a.spender.address 0 "" true)

theorem view_eq_map (p : Payload) : p.view = p.amount.values.map p.shows := by
  cases p with
  | erc20Transfer t => exact fungibleView_eq_map t.amount t.asset
  | nativeTransfer t => exact fungibleView_eq_map t.amount t.asset
  | erc721Transfer t => exact tokenView_eq_map t.amount t.contract.address t.name t.tokenId
  | erc1155Transfer t => exact tokenView_eq_map t.amount t.contract.address t.name t.tokenId
  | erc20Approval a => exact approvalView_eq_map a.amount a.spender.address _ a.asset.symbol false
  | erc721Approval a => exact approvalView_eq_map a.amount a.spender.address 0 a.symbol false
  | erc721Operator a => exact approvalView_eq_map a.amount a.spender.address 0 a.symbol true
  | erc1155Operator a => exact approvalView_eq_map a.amount a.spender.address 0 "" true

theorem category_shows (p : Payload) (values : Nat × Nat) :
    (p.shows values).category = p.kind.category := by
  cases p <;> rfl

/-! ## Other amounts in a payload -/

/-- The payload with other amounts in it. -/
def withAmount (b : BalanceChange) : Payload → Payload
  | erc20Transfer t => erc20Transfer { t with amount := b }
  | erc721Transfer t => erc721Transfer { t with amount := b }
  | erc1155Transfer t => erc1155Transfer { t with amount := b }
  | nativeTransfer t => nativeTransfer { t with amount := b }
  | erc20Approval a => erc20Approval { a with amount := b }
  | erc721Approval a => erc721Approval { a with amount := b }
  | erc721Operator a => erc721Operator { a with amount := b }
  | erc1155Operator a => erc1155Operator { a with amount := b }

variable (p : Payload) (b : BalanceChange)

@[simp]
theorem amount_withAmount : (p.withAmount b).amount = b := by cases p <;> rfl

@[simp]
theorem kind_withAmount : (p.withAmount b).kind = p.kind := by cases p <;> rfl

@[simp]
theorem addresses_withAmount : (p.withAmount b).addresses = p.addresses := by cases p <;> rfl

@[simp]
theorem shows_withAmount : (p.withAmount b).shows = p.shows := by cases p <;> rfl

/-- The amounts come into a view through their numbers alone. -/
theorem view_withAmount : (p.withAmount b).view = b.values.map p.shows := by
  rw [view_eq_map, amount_withAmount, shows_withAmount]

end Payload

end Evm

end SigningPreview
