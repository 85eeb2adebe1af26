import SigningPreview.Proofs.Label.Quantity
import SigningPreview.Proofs.Label.Token
import SigningPreview.Proofs.View.Addresses

/-! # Transfers with nothing to show

A quantity shows at least a digit, and the label of a token at least its name, for which an EVM
transfer has `???` in reserve; and an EVM asset without an address has no contract. The transfer of
a Solana token takes name and mint as they are, so it is the one that may show nothing
(`Effect.transfer_blank_iff`), also when the strict rules accept it (`not_forall_transfer_visible`).
-/
namespace SigningPreview

/-! ## Labels -/

theorem Label.quantity_ne_empty (n decimals : Nat) (symbol : String) :
    quantity n decimals symbol ≠ "" := by
  intro hempty
  obtain ⟨d, hd, -⟩ := quantity_begins n decimals symbol
  rw [hempty] at hd
  cases hd

theorem Label.token_ne_empty {name : String} (h : name ≠ "") (id : String) : token name id ≠ "" := by
  intro hempty
  have begins := prefix_token name id
  rw [hempty] at begins
  exact h (String.toList_eq_nil_iff.1 (List.prefix_nil.1 begins))

/-! ## EVM -/

namespace Evm

theorem tokenAmount_ne_empty (name : String) (tokenId : Option String) (count : Nat) :
    tokenAmount name tokenId count ≠ "" := by
  have named : collectionName name ≠ "" := by
    unfold collectionName
    split
    · decide
    · next hname => exact hname
  unfold tokenAmount
  cases tokenId.filter (· ≠ "") with
  | none => exact Label.quantity_ne_empty _ _ _
  | some id => exact Label.token_ne_empty named id

/-- An amount is shown, and a contract that is given is an address that was received. -/
theorem Payload.transfer_shows {p : Payload} {t : View.Transfer} (h : p.view = .ok (.transfer t)) :
    t.amount ≠ "" ∧ t.contract ≠ some "" := by
  constructor
  · rw [view_eq_map] at h
    obtain ⟨⟨before, after⟩, -, shown⟩ := exists_of_map_eq_ok h
    cases p with
    | erc20Transfer _ | nativeTransfer _ =>
      cases shown
      exact Label.quantity_ne_empty _ _ _
    | erc721Transfer _ | erc1155Transfer _ =>
      cases shown
      exact tokenAmount_ne_empty _ _ _
    | erc20Approval _ | erc721Approval _ | erc721Operator _ | erc1155Operator _ => cases shown
  · intro hempty
    exact (Payload.view_showsFrom h "" hempty).2 rfl rfl

end Evm

/-! ## Solana -/

namespace Solana.Payload

/-- A single token that was received without a name. -/
def Nameless : Payload → Prop
  | splTransfer t => isNonFungible t.standard = true ∧ t.name = ""
  | _ => False

/-- A token that was received without its mint. -/
def Mintless : Payload → Prop
  | splTransfer t => t.mint = ""
  | _ => False

variable {p : Payload} {t : View.Transfer}

theorem transfer_shows (h : p.view = .transfer t) :
    (t.amount = "" ↔ p.Nameless) ∧ (t.contract = some "" ↔ p.Mintless) := by
  cases p with
  | solTransfer s =>
    cases h
    simp [Nameless, Mintless, Label.quantity_ne_empty]
  | splTransfer s =>
    cases h
    by_cases single : isNonFungible s.standard = true
    · simp [Nameless, Mintless, single]
    · simp [Nameless, Mintless, single, Label.quantity_ne_empty]
  | splApproval a => cases h
  | authorityChange c => cases h

end Solana.Payload

/-! ## Effects of either chain -/

/-- A payload whose transfer shows no amount. EVM tokens without a name are given one. -/
def Chain.Nameless : (c : Chain) → c.Payload → Prop
  | .evm, _ => False
  | .svm, p => Solana.Payload.Nameless p

/-- A payload whose transfer is linked to nothing. EVM assets without an address have no link. -/
def Chain.Mintless : (c : Chain) → c.Payload → Prop
  | .evm, _ => False
  | .svm, p => Solana.Payload.Mintless p

variable {c : Chain} {t : View.Transfer}

theorem Chain.transfer_shows {p : c.Payload} (h : c.view p = .ok (.transfer t)) :
    (t.amount = "" ↔ c.Nameless p) ∧ (t.contract = some "" ↔ c.Mintless p) := by
  cases c with
  | evm =>
    obtain ⟨hamount, hcontract⟩ := Evm.Payload.transfer_shows h
    exact ⟨⟨hamount, False.elim⟩, ⟨hcontract, False.elim⟩⟩
  | svm => exact Solana.Payload.transfer_shows (Except.ok.inj h)

namespace Effect

/-- The only transfers that show no amount are those of nameless Solana tokens, and the only ones
with a blank contract are those of Solana tokens without a mint. -/
theorem transfer_blank_iff {e : Effect c} (h : e.view = .ok (some (.transfer t))) :
    (t.amount = "" ↔ ∃ p, e.payload = some p ∧ c.Nameless p) ∧
      (t.contract = some "" ↔ ∃ p, e.payload = some p ∧ c.Mintless p) := by
  cases hp : e.payload with
  | none =>
    rw [view, hp] at h
    cases h
  | some p =>
    rw [view, hp] at h
    obtain ⟨v, hv, heq⟩ := exists_of_map_eq_ok h
    cases heq
    obtain ⟨hamount, hcontract⟩ := Chain.transfer_shows hv
    simp [hamount, hcontract]

/-- A token of its own, sent away: the provider knows neither its name nor its mint. -/
def unknownToken : Effect .svm :=
  .ofPayload "Send a token" (some (.splTransfer
    { symbol := "", name := "", mint := "", decimals := 0, supply := 1,
      standard := "non_fungible", price := none, movement := ⟨.minus, 1⟩ }))

theorem transfer_blank_iff_unknownToken :
    unknownToken.view = .ok (some (.transfer ⟨.send, "", none, some ""⟩)) ∧
      ∃ p, unknownToken.payload = some p ∧ Chain.svm.Nameless p ∧ Chain.svm.Mintless p := by
  have shown : unknownToken.view = .ok (some (.transfer ⟨.send, "", none, some ""⟩)) := by decide
  obtain ⟨hamount, hcontract⟩ := transfer_blank_iff shown
  obtain ⟨p, hp, nameless⟩ := hamount.1 rfl
  obtain ⟨q, hq, mintless⟩ := hcontract.1 rfl
  rw [hp] at hq
  cases hq
  exact ⟨shown, p, hp, nameless, mintless⟩

/-- The strict rules accept the token, and its transfer shows neither an amount nor a contract. -/
theorem not_forall_transfer_visible :
    (¬ ∀ (c : Chain) (e : Effect c) (t : View.Transfer),
      (∃ g, Grouping.ofRecordsStrict [e.toRecord] = .ok g) →
      e.view = .ok (some (.transfer t)) → t.amount ≠ "") ∧
    ¬ ∀ (c : Chain) (e : Effect c) (t : View.Transfer),
      (∃ g, Grouping.ofRecordsStrict [e.toRecord] = .ok g) →
      e.view = .ok (some (.transfer t)) → t.contract ≠ some "" := by
  have accepted : ∃ g, Grouping.ofRecordsStrict [unknownToken.toRecord] = .ok g :=
    ⟨Grouping.ofEffects [unknownToken], by decide⟩
  have shown : unknownToken.view = .ok (some (.transfer ⟨.send, "", none, some ""⟩)) := by decide
  exact ⟨fun h => h .svm unknownToken _ accepted shown rfl,
    fun h => h .svm unknownToken _ accepted shown rfl⟩

end Effect

end SigningPreview
