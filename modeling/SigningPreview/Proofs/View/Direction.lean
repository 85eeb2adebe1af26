import SigningPreview.Proofs.Strict.Record
import SigningPreview.Proofs.View.Amounts

/-! # Which way a transfer goes, and how far

All four transfers of an EVM chain are a `movement` from one number to another, whatever else they
hold (`Payload.exists_movement`). The distance of two numbers has no direction, so exchanging the
two sides of a balance turns the transfer round and changes nothing else of its view; a balance
that stays where it is has no other way to go (`Payload.transfer_moves`). -/
namespace SigningPreview

/-! ## The other way round -/

namespace Direction

def opposite : Direction → Direction
  | send => receive
  | receive => send

theorem between_self (n : Nat) : between n n = .send := if_neg (Nat.lt_irrefl n)

theorem between_swap {before after : Nat} (h : before ≠ after) :
    between after before = (between before after).opposite := by
  rcases Nat.lt_or_gt_of_ne h with grows | shrinks
  · have back : ¬ after < before := Nat.not_lt_of_lt grows
    simp [between, grows, back, opposite]
  · have back : ¬ before < after := Nat.not_lt_of_lt shrinks
    simp [between, shrinks, back, opposite]

end Direction

/-- A balance change with its two sides exchanged. -/
def BalanceChange.swap (b : BalanceChange) : BalanceChange := ⟨b.after, b.before⟩

namespace Evm

/-- On the way back only the direction is another. -/
theorem movement_swap {before after : Nat} {amount : Nat → String}
    {verification contract : Option String} :
    movement after before amount verification contract =
      { movement before after amount verification contract with
        direction := .between after before } := by
  rw [movement, Nat.dist_comm]
  rfl

namespace Payload

/-! ## Transfers as movements -/

/-- What a transfer counts: the decimals of a unit, and the word for it. Tokens of a collection are
counted when none of them is identified. -/
inductive Counts : Payload → Nat → String → Prop
  | erc20 (t : FungibleTransfer) :
    Counts (.erc20Transfer t) t.asset.decimals.toNat t.asset.symbol
  | native (t : FungibleTransfer) :
    Counts (.nativeTransfer t) t.asset.decimals.toNat t.asset.symbol
  | erc721 {t : Erc721Transfer} : t.tokenId = none ∨ t.tokenId = some "" →
    Counts (.erc721Transfer t) 0 (if t.name = "" then "???" else t.name)
  | erc1155 {t : Erc1155Transfer} : t.tokenId = none ∨ t.tokenId = some "" →
    Counts (.erc1155Transfer t) 0 (if t.name = "" then "???" else t.name)

/-- The payload with the two sides of its amounts exchanged. -/
def swap (p : Payload) : Payload := p.withAmount p.amount.swap

theorem tokenAmount_of_unidentified {tokenId : Option String}
    (h : tokenId = none ∨ tokenId = some "") (name : String) (count : Nat) :
    tokenAmount name tokenId count = Label.quantity count 0 (collectionName name) := by
  rcases h with rfl | rfl <;> rfl

/-- The view of a transfer is a movement between the numbers that its amounts are read as. -/
theorem exists_movement {p : Payload} (transfer : p.kind.category = .transfer) :
    ∃ amount verification contract,
      (∀ before after, p.shows (before, after) =
        .transfer (movement before after amount verification contract)) ∧
      ∀ decimals unit, p.Counts decimals unit →
        ∀ n, amount n = Label.quantity n decimals unit := by
  cases p with
  | erc20Transfer t =>
    refine ⟨_, _, _, fun before after => rfl, fun decimals unit counts n => ?_⟩
    cases counts
    rfl
  | nativeTransfer t =>
    refine ⟨_, _, _, fun before after => rfl, fun decimals unit counts n => ?_⟩
    cases counts
    rfl
  | erc721Transfer t =>
    refine ⟨_, _, _, fun before after => rfl, fun decimals unit counts n => ?_⟩
    cases counts with
    | erc721 unidentified => exact tokenAmount_of_unidentified unidentified t.name n
  | erc1155Transfer t =>
    refine ⟨_, _, _, fun before after => rfl, fun decimals unit counts n => ?_⟩
    cases counts with
    | erc1155 unidentified => exact tokenAmount_of_unidentified unidentified t.name n
  | erc20Approval a => cases transfer
  | erc721Approval a => cases transfer
  | erc721Operator a => cases transfer
  | erc1155Operator a => cases transfer

/-! ## Direction and distance -/

/-- How a transfer is shown whose balance goes from `before` to `after`. -/
structure Moves (p : Payload) (before after : Nat) (t : View.Transfer) : Prop where
  shown : p.view = .ok (.transfer t)
  direction : t.direction = .receive ↔ before < after
  amount : ∀ decimals unit, p.Counts decimals unit →
    t.amount = Label.quantity (Nat.dist before after) decimals unit
  /-- With its sides exchanged the transfer goes the other way, and all else is as it was. -/
  swapped : before ≠ after →
    p.swap.view = .ok (.transfer { t with direction := t.direction.opposite })
  unmoved : before = after → t.direction = .send ∧ p.swap.view = .ok (.transfer t)

variable {p : Payload} {before after : Nat}

theorem view_eq (hbefore : p.amount.before.value = .ok before)
    (hafter : p.amount.after.value = .ok after) : p.view = .ok (p.shows (before, after)) := by
  rw [view_eq_map, BalanceChange.values_ok hbefore hafter]
  rfl

theorem view_swap (hbefore : p.amount.before.value = .ok before)
    (hafter : p.amount.after.value = .ok after) : p.swap.view = .ok (p.shows (after, before)) := by
  have values : p.amount.swap.values = .ok (after, before) :=
    BalanceChange.values_ok hafter hbefore
  rw [swap, view_withAmount, values]
  rfl

/-- Every transfer whose amounts can be read shows which way its balance goes, and how far. -/
theorem transfer_moves (transfer : p.kind.category = .transfer)
    (hbefore : p.amount.before.value = .ok before) (hafter : p.amount.after.value = .ok after) :
    ∃ t, p.Moves before after t := by
  obtain ⟨amount, verification, contract, shows, counted⟩ := exists_movement transfer
  have back := view_swap hbefore hafter
  rw [shows, movement_swap] at back
  refine ⟨movement before after amount verification contract, ?_, ?_, ?_, ?_, ?_⟩
  · rw [view_eq hbefore hafter, shows]
  · exact Direction.between_eq_receive_iff
  · intro decimals unit counts
    exact counted decimals unit counts (Nat.dist before after)
  · intro moved
    rw [back, Direction.between_swap moved]
    rfl
  · rintro rfl
    exact ⟨Direction.between_self before, back⟩

/-- Tokens of a collection without a name, of which some arrive; one amount is padded. -/
def someTokens : Payload :=
  .erc1155Transfer ⟨⟨⟨"7"⟩, ⟨" 0010 "⟩⟩, .blank, .blank, "", some "", none⟩

theorem transfer_moves_someTokens :
    ∃ t, someTokens.Moves 7 10 t ∧ t.direction = .receive ∧ t.amount = "3 ???" := by
  have before : someTokens.amount.before.value = .ok 7 := rfl
  have after : someTokens.amount.after.value = .ok 10 := rfl
  obtain ⟨t, moves⟩ := transfer_moves rfl before after
  refine ⟨t, moves, moves.direction.2 (by omega), ?_⟩
  rw [moves.amount 0 "???" (.erc1155 (.inr rfl))]
  decide

end Payload

end Evm

end SigningPreview
