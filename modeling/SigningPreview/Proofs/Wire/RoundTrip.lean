import SigningPreview.Proofs.Json.Restore
import SigningPreview.Proofs.Record.Tag
import SigningPreview.Wire.Response

/-! # Responses survive their JSON text

Every record of the wire format is restored: amounts, parties and assets first, then the payloads of
either chain, then records, and last the response around them. Only tags ask for something: a tag
that hides the literal of a kind comes back as that kind, so the tags must be ones that reading can
give. -/
namespace SigningPreview

open Json (Codec Document)
open Json.Codec (bool_restores list_restores text_restores variant_restores word32_restores
  word64_restores)
open Json.Field (Restores)

/-! ## Scalars -/

theorem Amount.restores (a : Amount) : Amount.codec.Restores a := (text_restores _).map rfl

theorem Sign.restores (s : Sign) : Sign.codec.Restores s := (text_restores _).map (ofWord_word s)

theorem Tag.restores {tag : Tag} (h : tag.Readable) : Tag.codec.Restores tag :=
  (text_restores _).map (ofText_written h)

theorem Wire.textField_restores (name s : String) : (Wire.textField name).Restores s :=
  .nullable (text_restores s)

theorem Wire.decimalsField_restores (w : UInt32) : Wire.decimalsField.Restores w :=
  .nullable (word32_restores w)

open Wire (textField_restores decimalsField_restores)

/-! ## Parties and assets -/

theorem BalanceChange.restores (b : BalanceChange) : BalanceChange.layout.codec.Restores b :=
  Json.Layout.restores (by decide) rfl
    ⟨.nullable (Amount.restores _), .nullable (Amount.restores _), trivial⟩

theorem Movement.restores (m : Movement) : Movement.layout.codec.Restores m :=
  Json.Layout.restores (by decide) rfl
    ⟨.nullable (Sign.restores _), .nullable (word64_restores _), trivial⟩

theorem Party.restores (p : Party) : Party.layout.codec.Restores p :=
  Json.Layout.restores (by decide) rfl
    ⟨textField_restores _ _, textField_restores _ _, trivial⟩

theorem Price.restores (p : Price) : Price.layout.codec.Restores p :=
  Json.Layout.restores (by decide) rfl
    ⟨textField_restores _ _, textField_restores _ _, textField_restores _ _, trivial⟩

theorem Asset.restores (a : Asset) : Asset.layout.codec.Restores a :=
  Json.Layout.restores (by decide) rfl
    ⟨textField_restores _ _, textField_restores _ _, textField_restores _ _,
      decimalsField_restores _, .nullable (bool_restores _),
      .nullable (list_restores fun s _ => text_restores s), .optional fun s _ => text_restores s,
      .optional fun p _ => Price.restores p, trivial⟩

theorem Metadata.restores (m : Metadata) : Metadata.layout.codec.Restores m :=
  Json.Layout.restores (by decide) rfl ⟨textField_restores _ _, trivial⟩

theorem Wire.priceField_restores (p : Option Price) : Wire.priceField.Restores p :=
  .optional fun p _ => Price.restores p

open Wire (priceField_restores)

/-! ## EVM payloads -/

namespace Evm

theorem amountField_restores (b : BalanceChange) : amountField.Restores b :=
  .nullable (BalanceChange.restores b)

theorem assetField_restores (a : Asset) : assetField.Restores a := .nullable (Asset.restores a)

theorem partyField_restores (role : String) (p : Party) : (partyField role).Restores p :=
  .nullable (Party.restores p)

theorem metadataField_restores (m : Metadata) : metadataField.Restores m :=
  .nullable (Metadata.restores m)

theorem tokenIdField_restores (id : Option String) : tokenIdField.Restores id :=
  .optional fun s _ => text_restores s

theorem FungibleTransfer.restores (name : String) (t : FungibleTransfer) :
    (FungibleTransfer.layout name).codec.Restores t :=
  Json.Layout.restores (show ["amount", "contract", "asset"].Nodup by decide) rfl
    ⟨amountField_restores _, partyField_restores _ _, assetField_restores _, trivial⟩

theorem Erc721Transfer.restores (t : Erc721Transfer) : Erc721Transfer.layout.codec.Restores t :=
  Json.Layout.restores (by decide) rfl
    ⟨amountField_restores _, partyField_restores _ _, metadataField_restores _,
      textField_restores _ _, textField_restores _ _, tokenIdField_restores _,
      priceField_restores _, trivial⟩

theorem Erc1155Transfer.restores (t : Erc1155Transfer) : Erc1155Transfer.layout.codec.Restores t :=
  Json.Layout.restores (by decide) rfl
    ⟨amountField_restores _, partyField_restores _ _, metadataField_restores _,
      textField_restores _ _, tokenIdField_restores _, priceField_restores _, trivial⟩

theorem Erc20Approval.restores (a : Erc20Approval) : Erc20Approval.layout.codec.Restores a :=
  Json.Layout.restores (by decide) rfl
    ⟨amountField_restores _, assetField_restores _, partyField_restores _ _,
      partyField_restores _ _, partyField_restores _ _, trivial⟩

theorem Erc721Approval.restores (a : Erc721Approval) : Erc721Approval.layout.codec.Restores a :=
  Json.Layout.restores (by decide) rfl
    ⟨amountField_restores _, partyField_restores _ _, metadataField_restores _,
      textField_restores _ _, partyField_restores _ _, partyField_restores _ _,
      textField_restores _ _, tokenIdField_restores _, priceField_restores _, trivial⟩

theorem Erc721Operator.restores (a : Erc721Operator) : Erc721Operator.layout.codec.Restores a :=
  Json.Layout.restores (by decide) rfl
    ⟨amountField_restores _, partyField_restores _ _, textField_restores _ _,
      partyField_restores _ _, partyField_restores _ _, textField_restores _ _,
      priceField_restores _, trivial⟩

theorem Erc1155Operator.restores (a : Erc1155Operator) : Erc1155Operator.layout.codec.Restores a :=
  Json.Layout.restores (by decide) rfl
    ⟨amountField_restores _, partyField_restores _ _, partyField_restores _ _,
      partyField_restores _ _, priceField_restores _, trivial⟩

theorem Data.restores (d : Data) : Data.layout.codec.Restores d :=
  Json.Layout.restores (by decide) rfl
    ⟨.omitted fun t _ => FungibleTransfer.restores _ t,
      .omitted fun t _ => Erc721Transfer.restores t,
      .omitted fun t _ => Erc1155Transfer.restores t,
      .omitted fun t _ => FungibleTransfer.restores _ t,
      .omitted fun a _ => Erc20Approval.restores a, .omitted fun a _ => Erc721Approval.restores a,
      .omitted fun a _ => Erc721Operator.restores a, .omitted fun a _ => Erc1155Operator.restores a,
      trivial⟩

end Evm

/-! ## Solana payloads -/

namespace Solana

theorem movementField_restores (m : Movement) : movementField.Restores m :=
  .nullable (Movement.restores m)

theorem supplyField_restores (w : UInt64) : supplyField.Restores w := .nullable (word64_restores w)

theorem Authorities.restores (a : Authorities) : Authorities.layout.codec.Restores a :=
  Json.Layout.restores (by decide) rfl ⟨textField_restores _ _, textField_restores _ _, trivial⟩

theorem SolTransfer.restores (t : SolTransfer) : SolTransfer.layout.codec.Restores t :=
  Json.Layout.restores (by decide) rfl
    ⟨textField_restores _ _, textField_restores _ _, decimalsField_restores _,
      movementField_restores _, trivial⟩

theorem SplTransfer.restores (t : SplTransfer) : SplTransfer.layout.codec.Restores t :=
  Json.Layout.restores (by decide) rfl
    ⟨textField_restores _ _, textField_restores _ _, textField_restores _ _,
      decimalsField_restores _, supplyField_restores _, textField_restores _ _,
      priceField_restores _, movementField_restores _, trivial⟩

theorem SplApproval.restores (a : SplApproval) : SplApproval.layout.codec.Restores a :=
  Json.Layout.restores (by decide) rfl
    ⟨textField_restores _ _, textField_restores _ _, textField_restores _ _, textField_restores _ _,
      decimalsField_restores _, supplyField_restores _, textField_restores _ _,
      priceField_restores _, movementField_restores _, trivial⟩

theorem AuthorityChange.restores (c : AuthorityChange) : AuthorityChange.layout.codec.Restores c :=
  Json.Layout.restores (by decide) rfl
    ⟨textField_restores _ _, .nullable (Authorities.restores _), .nullable (Authorities.restores _),
      textField_restores _ _, textField_restores _ _, decimalsField_restores _,
      .nullable (word64_restores _), trivial⟩

theorem Data.restores (d : Data) : Data.layout.codec.Restores d :=
  Json.Layout.restores (by decide) rfl
    ⟨.omitted fun t _ => SolTransfer.restores t, .omitted fun t _ => SplTransfer.restores t,
      .omitted fun a _ => SplApproval.restores a, .omitted fun c _ => AuthorityChange.restores c,
      trivial⟩

end Solana

/-! ## Records -/

section
variable {c : Chain}

theorem Chain.data_restores (d : c.Data) : c.dataCodec.Restores d := by
  cases c with
  | evm => exact Evm.Data.restores d
  | svm => exact Solana.Data.restores d

theorem Record.info_restores {tag : Tag} (h : tag.Readable) (d : c.Data) :
    (Record.infoLayout c).codec.Restores (tag, d) :=
  Json.Layout.restores (show ["kind", "data"].Nodup by decide) rfl
    ⟨.nullable (Tag.restores h), .required (Chain.data_restores d), trivial⟩

theorem Record.restores {r : Record c} (h : r.tag.Readable) : (Record.codec c).Restores r :=
  Json.Layout.restores (show ["humanReadableDiff", "rawInfo"].Nodup by decide) rfl
    ⟨textField_restores _ _, .required (Record.info_restores h r.data), trivial⟩

theorem Effect.restores {e : Effect c} (h : e.tag.Readable) : (Effect.codec c).Restores e :=
  Json.Codec.Restores.map (Record.restores h) e.decode_toRecord

end

/-! ## Responses -/

theorem Action.restores (a : Action) : Action.codec.Restores a :=
  variant_restores (by cases a <;> rfl)

theorem Severity.restores (s : Severity) : Severity.codec.Restores s :=
  variant_restores (by cases s <;> rfl)

theorem Warning.restores (w : Warning) : Warning.layout.codec.Restores w :=
  Json.Layout.restores (by decide) rfl
    ⟨.required (text_restores _), .required (Severity.restores _), .required (text_restores _),
      trivial⟩

theorem Failure.restores (f : Failure) : Failure.layout.codec.Restores f :=
  Json.Layout.restores (by decide) rfl
    ⟨.withDefault (text_restores _), .withDefault (text_restores _), trivial⟩

section
variable {α : Type} {effect : Codec α}

theorem Response.result_restores {failure : Option Failure} {effects : List α}
    (h : ∀ e ∈ effects, effect.Restores e) :
    (Response.resultLayout effect).codec.Restores (failure, effects) :=
  Json.Layout.restores (show ["error", "expectedStateChanges"].Nodup by decide) rfl
    ⟨.optional fun f _ => Failure.restores f, .withDefault (list_restores h), trivial⟩

/-- A response is restored if the effects in it are. -/
theorem Response.restores {r : Response α} (h : ∀ e ∈ r.effects, effect.Restores e) :
    (Response.codec effect).Restores r :=
  Json.Layout.restores (show ["action", "warnings", "simulationResults"].Nodup by decide) rfl
    ⟨.required (Action.restores _), .withDefault (list_restores fun w _ => Warning.restores w),
      .required (Response.result_restores h), trivial⟩

end

/-- A response with readable tags is read from the text it is written as. -/
theorem Response.read_compact {c : Chain} {r : Response (Effect c)}
    (h : ∀ e ∈ r.effects, e.tag.Readable) :
    (Document.ofText ((Response.codec (Effect.codec c)).write r).compact).read
      (Response.codec (Effect.codec c)) = .ok r :=
  (Response.restores fun e he => Effect.restores (h e he)).document

/-- A response with characters that are escaped, an effect that is not recognized, and a tag that
contradicts its payload. -/
def Response.unfamiliar : Response (Effect .svm) where
  action := .block
  warnings := [⟨"PHISHING", .critical, "\"seed\\phrase\"\n\x01 é 🦊"⟩]
  failure := some ⟨"", "\t"⟩
  effects :=
    [⟨"Mints 1 NFT", .other "SOL_MINT", none⟩,
      ⟨"", .known .solTransfer,
        some (.splTransfer
          ⟨"USDC", "", "", 4294967295, 18446744073709551615, "", none, ⟨.minus, 0⟩⟩)⟩]

theorem Response.read_compact_unfamiliar :
    (∀ e ∈ unfamiliar.effects, e.tag.Readable) ∧
      (Document.ofText ((Response.codec (Effect.codec .svm)).write unfamiliar).compact).read
        (Response.codec (Effect.codec .svm)) = .ok unfamiliar := by
  have readable : ∀ e ∈ unfamiliar.effects, e.tag.Readable := by
    intro e he
    rcases List.mem_cons.1 he with rfl | he
    · intro kind
      cases kind <;> decide
    · rw [List.mem_singleton.1 he]
      exact trivial
  exact ⟨readable, Response.read_compact readable⟩

end SigningPreview
