import SigningPreview.Proofs.Label.Identifier
import SigningPreview.Proofs.View.Readable

/-! # A token is shown in one spelling

The transfer of an identified token shows the label of the token (`Payload.view_identified`), and
that label follows from the number that the identifier denotes. So neither the base in which a
provider spells the number, nor zeros in front of it, nor the case of its letters is seen
(`tokens_oneLabel`). -/
namespace SigningPreview.Evm

open Label (Labels Spells token)

namespace Payload

/-- A payload is the transfer of a token of a collection: by the collection's name, and by an
identifier. -/
inductive Identifies : Payload → String → String → Prop
  | erc721 {t : Erc721Transfer} {id : String} : t.tokenId = some id →
    Identifies (.erc721Transfer t) t.name id
  | erc1155 {t : Erc1155Transfer} {id : String} : t.tokenId = some id →
    Identifies (.erc1155Transfer t) t.name id

variable {p : Payload} {name id : String}

theorem tokenAmount_of_identified (h : id ≠ "") (name : String) (count : Nat) :
    tokenAmount name (some id) count = token (collectionName name) id := by
  have kept : (some id).filter (· ≠ "") = some id := by simp [h]
  rw [tokenAmount, kept]

theorem shows_identified (h : p.Identifies name id) (hid : id ≠ "") (values : Nat × Nat) :
    ∃ t, p.shows values = .transfer t ∧ t.amount = token (collectionName name) id := by
  cases h with
  | erc721 hid' | erc1155 hid' =>
    refine ⟨_, rfl, ?_⟩
    rw [movement, hid']
    exact tokenAmount_of_identified hid _ _

theorem exists_view_iff : (∃ v, p.view = .ok v) ↔ p.amount.Readable := by
  refine ⟨fun ⟨v, hv⟩ => ?_, fun h => ?_⟩
  · rw [← BalanceChange.fault?_eq_none_iff]
    cases hfault : p.amount.fault? with
    | none => rfl
    | some e =>
      rw [view_error hfault] at hv
      cases hv
  · obtain ⟨v, hv, -⟩ := view_ok h
    exact ⟨v, hv⟩

/-- The label of an identified token is shown for its amount. -/
theorem view_identified (h : p.Identifies name id) (hid : id ≠ "") {v : View}
    (hv : p.view = .ok v) : ∃ t, v = .transfer t ∧ t.amount = token (collectionName name) id := by
  rw [view_eq_map] at hv
  obtain ⟨values, -, rfl⟩ := exists_of_map_eq_ok hv
  exact shows_identified h hid values

end Payload

/-- How the token `n` of a collection is shown, whatever text denotes its number. -/
structure OneLabel (name : String) (n : Nat) : Prop where
  label : ∀ id, Spells id.toList n → Labels name n (token name id)
  same : ∀ id id', Spells id.toList n → Spells id'.toList n → token name id = token name id'
  /-- Another token has another label, unless the name holds the digits of both. -/
  distinct : ∀ m id id', Spells id.toList n → Spells id'.toList m →
    ¬ (n.repr.toList <:+: name.toList ∧ m.repr.toList <:+: name.toList) →
    token name id = token name id' → n = m
  /-- A transfer of the token whose amounts can be read shows the label. -/
  shown : ∀ (p : Payload) id, p.Identifies name id → Spells id.toList n →
    ((∃ v, p.view = .ok v) ↔ p.amount.Readable) ∧
    ∀ v, p.view = .ok v →
      ∃ t, v = .transfer t ∧ Labels (if name = "" then "???" else name) n t.amount

theorem tokens_oneLabel (name : String) (n : Nat) : OneLabel name n where
  label _ := Label.token_labels
  same id id' hid hid' := by
    rw [(Label.token_labels hid).eq_numbered, (Label.token_labels hid').eq_numbered]
  distinct m id id' hid hid' apart same := by
    refine (Label.token_labels hid).eq_of_labels ?_ apart
    rw [same]
    exact Label.token_labels hid'
  shown p id h hid := by
    refine ⟨Payload.exists_view_iff, fun v hv => ?_⟩
    have nonempty : id ≠ "" := mt String.toList_eq_nil_iff.2 (Label.ne_nil_of_spells hid)
    obtain ⟨t, rfl, amount⟩ := Payload.view_identified h nonempty hv
    refine ⟨t, rfl, ?_⟩
    rw [amount]
    exact Label.token_labels hid

theorem tokens_oneLabel_moonCat :
    token "MoonCats" "0x0A19" = "MoonCats #2585" ∧
      token "MoonCats" "0002585" = token "MoonCats" "0x0A19" := by
  have hexadecimal : Spells "0x0A19".toList 2585 := .hexadecimal
    (show "0A19".toList.map Char.toLower = List.replicate 1 '0' ++ Nat.toDigits 16 2585 by decide)
  have decimal : Spells "0002585".toList 2585 := .decimal 3 2585
  have cat := tokens_oneLabel "MoonCats" 2585
  exact ⟨(cat.label _ hexadecimal).behind (by decide +kernel), cat.same _ _ decimal hexadecimal⟩

end SigningPreview.Evm
