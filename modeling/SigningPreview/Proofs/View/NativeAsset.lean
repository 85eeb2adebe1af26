import SigningPreview.Proofs.Address.Hexadecimal
import SigningPreview.Proofs.View.Addresses

/-! # The chain's own coin is an address

Whether an asset is the chain's own coin is asked of a text, without its case. Since the texts of
an address differ in case alone (`Address.ofText_eq_ok_iff`), the question comes to whether the text
denotes one particular address, twenty bytes `0xee` (`isNativeAsset_iff`). So a transfer that the
strict rules accept is linked to its asset exactly when it is not a transfer of the coin
(`nativeAsset_links`). -/
namespace SigningPreview.Evm

/-- The address that stands for the chain's own coin. -/
def Address.native : Address := ⟨List.replicate 20 0xEE, by decide⟩

theorem Address.text_native : native.text = nativeAsset := by decide

/-- The text of the coin's address has no capitals. -/
theorem toLower_nativeAsset : nativeAsset.toList.map Char.toLower = nativeAsset.toList := by decide

theorem isNativeAsset_iff {s : String} (h : s ≠ "") :
    isNativeAsset s = true ↔ Address.ofText s = .ok .native := by
  have nonempty : s.toList.isEmpty = false := by simpa using h
  rw [isNativeAsset, nonempty, Bool.false_or, beq_iff_eq, toLower_nativeAsset,
    Address.ofText_eq_ok_iff, Address.text_native]

/-- An asset is the coin if it has no address, or the coin's. -/
def DenotesCoin (s : String) : Prop := s = "" ∨ Address.ofText s = .ok .native

theorem isNativeAsset_iff_denotesCoin {s : String} : isNativeAsset s = true ↔ DenotesCoin s := by
  by_cases h : s = ""
  · simp [h, DenotesCoin, isNativeAsset]
  · simp [h, DenotesCoin, isNativeAsset_iff h]

/-! ## Links -/

/-- What a view links to for an asset. -/
structure Links (asset : String) (contract : Option String) : Prop where
  coin : contract = none ↔ DenotesCoin asset
  /-- Any other asset is linked by its address as it was received. -/
  verbatim : ¬ DenotesCoin asset → contract = some asset

theorem links_unless_coin (asset : String) :
    Links asset (if isNativeAsset asset then none else some asset) := by
  by_cases h : isNativeAsset asset = true
  · have coin := isNativeAsset_iff_denotesCoin.1 h
    rw [if_pos h]
    exact ⟨⟨fun _ => coin, fun _ => rfl⟩, fun other => absurd coin other⟩
  · have other : ¬ DenotesCoin asset := fun coin => h (isNativeAsset_iff_denotesCoin.2 coin)
    rw [if_neg h]
    exact ⟨⟨nofun, fun coin => absurd coin other⟩, fun _ => rfl⟩

namespace Payload

/-- The transfer of a fungible asset that a payload is, of a token or of the coin. -/
def fungible? : Payload → Option FungibleTransfer
  | erc20Transfer t | nativeTransfer t => some t
  | _ => none

theorem view_links {p : Payload} {t : FungibleTransfer} {v : View} (h : p.fungible? = some t)
    (hv : p.view = .ok v) : ∃ u, v = .transfer u ∧ Links t.asset.address u.contract := by
  rw [view_eq_map] at hv
  obtain ⟨⟨before, after⟩, -, rfl⟩ := exists_of_map_eq_ok hv
  cases p with
  | erc20Transfer _ | nativeTransfer _ =>
    cases h
    exact ⟨_, rfl, links_unless_coin _⟩
  | erc721Transfer _ | erc1155Transfer _ => cases h
  | erc20Approval _ | erc721Approval _ | erc721Operator _ | erc1155Operator _ => cases h

end Payload

/-! ## Accepted transfers -/

theorem view_of_accepted {rs : List (Record .evm)} {g : Grouping (Effect .evm)}
    (h : Grouping.ofRecordsStrict rs = .ok g) {k : Category} {e : Effect .evm} (he : e ∈ g.bucket k)
    {p : Payload} (hp : e.payload = some p) : ∃ v, p.view = .ok v ∧ e.view = .ok (some v) := by
  obtain ⟨r, -, sound, rfl⟩ := Grouping.exists_of_mem_ofRecordsStrict h he
  obtain ⟨v, -, hv⟩ := Record.view_of_sound sound
  have shown := hv
  rw [Effect.view, hp] at shown
  obtain ⟨v', hv', same⟩ := exists_of_map_eq_ok shown
  cases same
  exact ⟨v, hv', hv⟩

/-- A text is taken for the coin exactly when it denotes the coin's address. A transfer of a token
or of the coin that the strict rules accept is linked to its asset, by the address that was
received, unless that address is blank or denotes the coin. -/
theorem nativeAsset_links :
    (∀ s, s ≠ "" → (isNativeAsset s = true ↔ Address.ofText s = .ok .native)) ∧
    ∀ (rs : List (Record .evm)) g, Grouping.ofRecordsStrict rs = .ok g →
      ∀ k, ∀ e ∈ g.bucket k, ∀ (p : Payload) t, e.payload = some p → p.fungible? = some t →
        ∃ v, e.view = .ok (some (.transfer v)) ∧ Links t.asset.address v.contract := by
  refine ⟨fun s => isNativeAsset_iff, fun rs g h k e he p t hp ht => ?_⟩
  obtain ⟨v, hv, shown⟩ := view_of_accepted h he hp
  obtain ⟨u, rfl, links⟩ := Payload.view_links ht hv
  exact ⟨u, shown, links⟩

/-- A transfer of one unit of an asset. -/
def unitOf (address : String) : FungibleTransfer :=
  ⟨⟨⟨"1"⟩, ⟨"0"⟩⟩, .blank, { Asset.blank with address }⟩

/-- A coin whose address is in capitals, and a token with an address in both cases. -/
def coinAndToken : List (Record .evm) :=
  [⟨"", .blank, .ofPayload (some (.nativeTransfer
      (unitOf "0XEEEEEEEEEEEEEEEEEEEEEEEEEEEEEEEEEEEEEEEE")))⟩,
    ⟨"", .blank, .ofPayload (some (.erc20Transfer
      (unitOf "0x6B175474E89094C44Da98b954EedeAC495271d0F")))⟩]

theorem nativeAsset_links_coinAndToken :
    ∃ g, Grouping.ofRecordsStrict coinAndToken = .ok g ∧
      (∃ e ∈ g.transfers, ∃ v, e.view = .ok (some (.transfer v)) ∧ v.contract = none) ∧
      ∃ e ∈ g.transfers, ∃ v, e.view = .ok (some (.transfer v)) ∧
        v.contract = some "0x6B175474E89094C44Da98b954EedeAC495271d0F" := by
  have accepted : Grouping.ofRecordsStrict coinAndToken =
      .ok (Grouping.ofEffects (coinAndToken.map Record.decode)) := by decide +kernel
  have links := nativeAsset_links.2 _ _ accepted .transfer
  refine ⟨_, accepted, ⟨_, List.mem_cons_self, ?_⟩, _, List.mem_cons_of_mem _ List.mem_cons_self, ?_⟩
  · obtain ⟨v, hv, link⟩ := links _ List.mem_cons_self _ _ rfl rfl
    exact ⟨v, hv, link.coin.2 (isNativeAsset_iff_denotesCoin.1 (by decide +kernel))⟩
  · obtain ⟨v, hv, link⟩ := links _ (List.mem_cons_of_mem _ List.mem_cons_self) _ _ rfl rfl
    refine ⟨v, hv, link.verbatim fun coin => ?_⟩
    exact absurd (isNativeAsset_iff_denotesCoin.2 coin) (by decide +kernel)

end SigningPreview.Evm
