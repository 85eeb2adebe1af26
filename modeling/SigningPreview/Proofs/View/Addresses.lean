import SigningPreview.Proofs.Address.Length
import SigningPreview.Proofs.Label.Account
import SigningPreview.Proofs.Strict.Verdict
import SigningPreview.Proofs.View.Readable

/-! # The addresses that a view shows

The strict rules look at the addresses that `Chain.addresses` lists of a payload, and a view shows
some of its fields. First the two are held against each other: whatever a view shows for an address
is one of the listed texts, verbatim or abbreviated (`Chain.view_showsFrom`). So nothing malformed
shows of a record that passes the strict rules (`Grouping.ofRecordsStrict_showsAddresses`). -/
namespace SigningPreview

/-! ## Abbreviations -/

/-- A text is shown by its first six and its last four characters, with three dots for the rest. -/
def Label.Abbreviates (shown text : String) : Prop :=
  ∃ front rest back : List Char, text.toList = front ++ rest ++ back ∧ front.length = 6 ∧
    back.length = 4 ∧ shown.toList = front ++ ['.', '.', '.'] ++ back

theorem Label.abbreviates_abbreviate {text : String} (h : 10 < text.toList.length) :
    Abbreviates (abbreviate text) text := by
  have long : 10 < text.length := by rwa [String.length_toList] at h
  refine ⟨front text, (text.toList.drop 6).take (text.toList.length - 10), back text, ?_,
    length_front (by omega), length_back (by omega), toList_abbreviate long⟩
  have middle : back text = (text.toList.drop 6).drop (text.toList.length - 10) := by
    rw [back, List.rtake, List.drop_drop]
    congr 1
    omega
  rw [middle, front, List.append_assoc, List.take_append_drop, List.take_append_drop]

namespace Chain

/-- Every address is long enough to be abbreviated. -/
theorem length_of_isAddress {c : Chain} {text : String} (h : c.IsAddress text) :
    10 < text.toList.length := by
  cases c with
  | evm =>
    obtain ⟨a, ha⟩ := h
    rw [Evm.Address.length_of_ofText ha]
    decide
  | svm =>
    obtain ⟨a, ha⟩ := h
    exact Nat.lt_of_lt_of_le (by decide) (Solana.Address.length_of_ofText ha)

/-- Nothing, or the abbreviation of an address of the chain. -/
def Abbreviated (c : Chain) (shown : String) : Prop :=
  shown = "" ∨ ∃ text, c.IsAddress text ∧ Label.Abbreviates shown text

theorem abbreviated_of_acceptable {c : Chain} {text : String} (h : c.Acceptable text) :
    c.Abbreviated (Label.abbreviate text) := by
  rcases h with rfl | h
  · exact .inl rfl
  · exact .inr ⟨text, h, Label.abbreviates_abbreviate (length_of_isAddress h)⟩

/-- What may be given as the contract of an asset. Of an EVM asset without one none is given; a
Solana token may be given with a blank one. -/
def Linked : Chain → String → Prop
  | evm, text => evm.IsAddress text
  | svm, text => svm.Acceptable text

end Chain

/-! ## Views and the texts they are made from -/

namespace View

variable {c : Chain} {texts : List String}

/-- Whatever a view shows for an address is one of these texts, verbatim or abbreviated. -/
def ShowsFrom (c : Chain) (texts : List String) : View → Prop
  | transfer t => ∀ text, t.contract = some text → text ∈ texts ∧ (c = .evm → text ≠ "")
  | approval a => ∃ text ∈ texts, a.spender = Label.abbreviate text
  | authority s => s.account ∈ texts ∧
    ∀ change ∈ s.changes, change.old ∈ texts ∧ change.new ∈ texts

/-- Whatever a view shows for an address is well formed. -/
def ShowsAddresses (c : Chain) : View → Prop
  | transfer t => ∀ text, t.contract = some text → c.Linked text
  | approval a => c.Abbreviated a.spender
  | authority s => c.Acceptable s.account ∧
    ∀ change ∈ s.changes, c.Acceptable change.old ∧ c.Acceptable change.new

/-- A contract that is given unless a guard holds, and the guard holds of an empty one. -/
theorem ShowsFrom.of_guard {t : Transfer} {guard : Prop} [Decidable guard] {address : String}
    (contract : t.contract = if guard then none else some address) (received : address ∈ texts)
    (nonempty : ¬ guard → address ≠ "") : ShowsFrom c texts (.transfer t) := by
  intro text htext
  rw [contract] at htext
  split_ifs at htext with guarded
  cases htext
  exact ⟨received, fun _ => nonempty guarded⟩

theorem ShowsFrom.showsAddresses {v : View} (h : v.ShowsFrom c texts)
    (acceptable : ∀ text ∈ texts, c.Acceptable text) : v.ShowsAddresses c := by
  cases v with
  | transfer t =>
    intro text htext
    obtain ⟨hmem, hne⟩ := h text htext
    cases c with
    | evm => exact (acceptable text hmem).resolve_left (hne rfl)
    | svm => exact acceptable text hmem
  | approval a =>
    obtain ⟨text, hmem, hspender⟩ := h
    rw [ShowsAddresses, hspender]
    exact Chain.abbreviated_of_acceptable (acceptable text hmem)
  | authority s =>
    obtain ⟨haccount, hchanges⟩ := h
    refine ⟨acceptable _ haccount, fun change hchange => ?_⟩
    obtain ⟨hold, hnew⟩ := hchanges change hchange
    exact ⟨acceptable _ hold, acceptable _ hnew⟩

end View

namespace Evm

/-- An asset without an address is taken for the chain's own coin. -/
theorem ne_empty_of_not_native {address : String} (h : ¬ isNativeAsset address = true) :
    address ≠ "" := by
  rintro rfl
  exact h (by decide)

theorem Payload.shows_showsFrom (p : Payload) (values : Nat × Nat) :
    (p.shows values).ShowsFrom .evm p.addresses := by
  cases p with
  | erc20Transfer t => exact .of_guard rfl (by simp [addresses]) ne_empty_of_not_native
  | nativeTransfer t => exact .of_guard rfl (by simp [addresses]) ne_empty_of_not_native
  | erc721Transfer t => exact .of_guard rfl (by simp [addresses]) id
  | erc1155Transfer t => exact .of_guard rfl (by simp [addresses]) id
  | erc20Approval a => exact ⟨a.spender.address, by simp [addresses], rfl⟩
  | erc721Approval a => exact ⟨a.spender.address, by simp [addresses], rfl⟩
  | erc721Operator a => exact ⟨a.spender.address, by simp [addresses], rfl⟩
  | erc1155Operator a => exact ⟨a.spender.address, by simp [addresses], rfl⟩

theorem Payload.view_showsFrom {p : Payload} {v : View} (hv : p.view = .ok v) :
    v.ShowsFrom .evm p.addresses := by
  rw [view_eq_map] at hv
  obtain ⟨values, -, rfl⟩ := exists_of_map_eq_ok hv
  exact p.shows_showsFrom values

end Evm

namespace Solana

/-- Both sides of a role that passes on are listed. -/
theorem AuthorityChange.mem_addresses_of_mem_roleChanges {a : AuthorityChange} {change : RoleChange}
    (h : change ∈ a.roleChanges) :
    change.old ∈ (Payload.authorityChange a).addresses ∧
      change.new ∈ (Payload.authorityChange a).addresses := by
  obtain ⟨h, -⟩ := List.mem_filter.1 h
  rcases List.mem_cons.1 h with rfl | h
  · simp [Payload.addresses]
  · rw [List.mem_singleton.1 h]
    simp [Payload.addresses]

theorem Payload.view_showsFrom (p : Payload) : p.view.ShowsFrom .svm p.addresses := by
  cases p with
  | solTransfer t => exact fun text htext => nomatch htext
  | splTransfer t =>
    intro text htext
    cases htext
    exact ⟨by simp [addresses], nofun⟩
  | splApproval a => exact ⟨a.delegate, by simp [addresses], rfl⟩
  | authorityChange a =>
    exact ⟨by simp [addresses], fun _ => AuthorityChange.mem_addresses_of_mem_roleChanges⟩

end Solana

variable {c : Chain}

/-- The addresses that are checked of a payload are all that its view takes an address from. -/
theorem Chain.view_showsFrom {p : c.Payload} {v : View} (hv : c.view p = .ok v) :
    v.ShowsFrom c (c.addresses p) := by
  cases c with
  | evm => exact Evm.Payload.view_showsFrom hv
  | svm =>
    cases hv
    exact Solana.Payload.view_showsFrom p

/-! ## Records that pass the strict rules -/

theorem Record.view_showsAddresses {r : Record c} (h : r.Sound) :
    ∃ v, r.decode.view = .ok (some v) ∧ v.ShowsAddresses c := by
  obtain ⟨v, -, hv⟩ := view_of_sound h
  obtain ⟨p, hp⟩ := h
  refine ⟨v, hv, ?_⟩
  rw [Effect.view, decode_payload_of_only hp.only] at hv
  obtain ⟨v', hv', heq⟩ := exists_of_map_eq_ok hv
  cases heq
  exact (Chain.view_showsFrom hv').showsAddresses hp.addresses

namespace Grouping

/-- The values of a strict grouping are effects of sound records. -/
theorem exists_of_mem_ofRecordsStrict {rs : List (Record c)} {g : Grouping (Effect c)}
    (h : ofRecordsStrict rs = .ok g) {k : Category} {e : Effect c} (he : e ∈ g.bucket k) :
    ∃ r ∈ rs, r.Sound ∧ e = r.decode := by
  have sound := sound_of_ofRecordsStrict h
  rw [ofRecordsStrict_of_sound sound] at h
  cases h
  rw [ofEffects, bucket_ofList] at he
  obtain ⟨r, hr, rfl⟩ := List.mem_map.1 (List.mem_filter.1 he).1
  exact ⟨r, hr, sound r hr, rfl⟩

/-- Every effect of a strict grouping has a view, and no malformed address shows in it. -/
theorem ofRecordsStrict_showsAddresses {rs : List (Record c)} {g : Grouping (Effect c)}
    (h : ofRecordsStrict rs = .ok g) :
    ∀ k, ∀ e ∈ g.bucket k, ∃ v, e.view = .ok (some v) ∧ v.ShowsAddresses c := by
  intro k e he
  obtain ⟨r, -, sound, rfl⟩ := exists_of_mem_ofRecordsStrict h he
  exact r.view_showsAddresses sound

/-- A coin that is paid out, its address in capitals, and an operator of a collection. -/
def coinAndOperator : List (Record .evm) :=
  [⟨"", .known .nativeAssetTransfer, .ofPayload (some (.nativeTransfer ⟨⟨⟨"5"⟩, ⟨"0"⟩⟩, .blank,
      { Asset.blank with address := "0XEEEEEEEEEEEEEEEEEEEEEEEEEEEEEEEEEEEEEEEE" }⟩))⟩,
    ⟨"", .other "", .ofPayload (some (.erc1155Operator ⟨⟨⟨"0"⟩, ⟨"1"⟩⟩, .blank, .blank,
      .account "0x1e0049783f008a0085193e00003d00cd54003c71", none⟩))⟩]

/-- A delegate, and a stake account of which one role passes to nobody. -/
def delegateAndStake : List (Record .svm) :=
  [⟨"", .other "", .ofPayload (some (.splApproval
      ⟨"5sDWP4vCRgDrGsmS1RRuWGRWKo5mhP5wKw8RNqK6zRer", "", "", "", 0, 0, "", none, .blank⟩))⟩,
    ⟨"", .known .solStakeAuthorityChange, .ofPayload (some (.authorityChange
      ⟨"CcYNb7WqpjaMrNr7B1mapaNfWctZRH7LyAjWRLBGt1Fk",
        ⟨"J58MrVr9qJPzJJS8RPQUDfaFirN3PiVHXU48zr95FY48", "11111111111111111111111111111111"⟩,
        ⟨"EpochxXNkmM2akxBTuCEizW1oWyzgrPZ1CVZ3GpD7Egm", ""⟩, "SOL", "", 9, 0⟩))⟩]

theorem ofRecordsStrict_showsAddresses_bothChains :
    (∃ g, ofRecordsStrict coinAndOperator = .ok g ∧ g.size = 2 ∧
      ∀ k, ∀ e ∈ g.bucket k, ∃ v, e.view = .ok (some v) ∧ v.ShowsAddresses .evm) ∧
    ∃ g, ofRecordsStrict delegateAndStake = .ok g ∧ g.size = 2 ∧
      ∀ k, ∀ e ∈ g.bucket k, ∃ v, e.view = .ok (some v) ∧ v.ShowsAddresses .svm := by
  have evm : ofRecordsStrict coinAndOperator =
      .ok (ofEffects (coinAndOperator.map Record.decode)) := by decide +kernel
  have svm : ofRecordsStrict delegateAndStake =
      .ok (ofEffects (delegateAndStake.map Record.decode)) := by decide +kernel
  exact ⟨⟨_, evm, by decide +kernel, ofRecordsStrict_showsAddresses evm⟩,
    _, svm, by decide +kernel, ofRecordsStrict_showsAddresses svm⟩

end Grouping

end SigningPreview
