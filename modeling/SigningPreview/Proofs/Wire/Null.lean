import SigningPreview.Proofs.Wire.Places

/-! # Null stands for what is left out

A provider writes `null` for what it could not resolve. Every field of a payload, of the objects in
a payload and of a data object takes that for its blank value, and so do the headline of a record,
its tag and the failure of a response. Main statement: wherever such a field has no member, a member
that is `null` may be added, at any position and any number of times in one document, and the
response that is read stays the same (`Response.read_nullsAdded`). -/
namespace SigningPreview

open Json (Codec Document Edit Fields Layout Node Rule)
open Json.Node (isNamed ofString)

/-! ## Fields that take null -/

namespace Json

variable {α : Type}

theorem Field.nullable_takesNull (name : String) (c : Codec α) (blank : α) :
    (nullable name c blank).TakesNull := ⟨blank, rfl, rfl⟩

theorem Field.optional_takesNull (name : String) (c : Codec α) : (optional name c).TakesNull :=
  ⟨none, rfl, rfl⟩

theorem Field.omitted_takesNull (name : String) (c : Codec α) : (omitted name c).TakesNull :=
  ⟨none, rfl, rfl⟩

/-- Every field takes `null`. -/
def Fields.AllTakeNull {γ σ : Type} : Fields γ σ → Prop
  | nil => True
  | cons field rest => field.TakesNull ∧ rest.AllTakeNull

theorem Fields.AllTakeNull.takesNull {γ σ : Type} {fields : Fields γ σ} (h : fields.AllTakeNull)
    {name : String} (hname : name ∈ fields.names) : fields.TakesNull name := by
  induction fields with
  | nil => cases hname
  | cons field rest ih =>
    obtain ⟨hfield, hrest⟩ := h
    rw [TakesNull]
    split
    · exact hfield
    · next hne => exact ih hrest ((List.mem_cons.1 hname).resolve_left hne)

end Json

open Json.Field (nullable_takesNull optional_takesNull omitted_takesNull)

/-! ## Layouts -/

/-- The payloads of either chain, what they are made of, and the data objects around them. -/
inductive Wire.InData : {ρ : Type} → Layout ρ → Prop
  | balanceChange : InData BalanceChange.layout
  | movement : InData Movement.layout
  | party : InData Party.layout
  | price : InData Price.layout
  | asset : InData Asset.layout
  | metadata : InData Metadata.layout
  | authorities : InData Solana.Authorities.layout
  | erc20Transfer : InData Evm.Erc20Transfer.layout
  | erc721Transfer : InData Evm.Erc721Transfer.layout
  | erc1155Transfer : InData Evm.Erc1155Transfer.layout
  | nativeTransfer : InData Evm.NativeTransfer.layout
  | erc20Approval : InData Evm.Erc20Approval.layout
  | erc721Approval : InData Evm.Erc721Approval.layout
  | erc721Operator : InData Evm.Erc721Operator.layout
  | erc1155Operator : InData Evm.Erc1155Operator.layout
  | solTransfer : InData Solana.SolTransfer.layout
  | splTransfer : InData Solana.SplTransfer.layout
  | splApproval : InData Solana.SplApproval.layout
  | authorityChange : InData Solana.AuthorityChange.layout
  | evm : InData Evm.Data.layout
  | solana : InData Solana.Data.layout

/-- The fields of a layout that `null` leaves blank. -/
inductive Wire.NullIsBlank : {ρ : Type} → Layout ρ → String → Prop
  | data {ρ : Type} {l : Layout ρ} (h : InData l) {name : String} (hname : name ∈ l.fields.names) :
    NullIsBlank l name
  | headline (c : Chain) : NullIsBlank (Record.layout c) "humanReadableDiff"
  | tag (c : Chain) : NullIsBlank (Record.infoLayout c) "kind"
  | failure {α : Type} (effect : Codec α) : NullIsBlank (Response.resultLayout effect) "error"

/-- A member that is `null` is added for a field that has no member. -/
inductive Wire.AddsNull : Rule
  | intro {ρ : Type} {l : Layout ρ} {name : String} (hname : NullIsBlank l name)
    (before after : List (Node × Node)) (hnew : ∀ m ∈ before ++ after, isNamed name m = false) :
    AddsNull l (before ++ after) (before ++ (.str (some name), .null) :: after)

namespace Wire

theorem InData.allTakeNull {ρ : Type} {l : Layout ρ} (h : InData l) : l.fields.AllTakeNull := by
  -- in each of the layouts, a field is of one of three sorts
  cases h <;>
    repeat' first
      | exact nullable_takesNull _ _ _
      | exact optional_takesNull _ _
      | exact omitted_takesNull _ _
      | exact trivial
      | constructor

theorem NullIsBlank.takesNull {ρ : Type} {l : Layout ρ} {name : String} (h : NullIsBlank l name) :
    l.fields.TakesNull name := by
  cases h with
  | data h hname => exact h.allTakeNull.takesNull hname
  | headline | tag => exact nullable_takesNull _ _ _
  | failure => exact optional_takesNull _ _

theorem addsNull_faithful : Rule.Faithful AddsNull := by
  rintro ρ l _ _ values ⟨hname, before, after, hnew⟩ h
  have added := h.cons_null hname.takesNull hnew
  exact added.perm List.perm_middle.symm

end Wire

/-- The effects may be the records as they were received or what is decoded from them: `effect` is
the codec of either. -/
theorem Response.read_nullsAdded {α : Type} {effect : Codec α} {d d' : Document}
    (h : d.Edited Wire.AddsNull (Response.codec effect) d') {r : Response α}
    (hr : d.read (Response.codec effect) = .ok r) : d'.read (Response.codec effect) = .ok r :=
  h.read Wire.addsNull_faithful hr

/-! ## A transfer that was hardly resolved -/

namespace Response

/-- A record of a token transfer, given what else there is in it, in its data and in the payload. -/
def tokenSent (record data transfer : List (Node × Node)) : Node :=
  Record.around record (.obj ((ofString "splTransferData", .obj transfer true) :: data) true)

def nullMember (name : String) : Node × Node := (ofString name, .null)

/-- The nulls are added from the inside to the outside: first in the payload, then beside it, and
last before the info of the record. -/
theorem edits_tokenSent :
    Relation.ReflTransGen (Edit Wire.AddsNull (Record.codec .svm)) (tokenSent [] [] [])
      (tokenSent [nullMember "humanReadableDiff"] [nullMember "solTransferData"]
        [nullMember "assetPrice"]) := by
  have place : Solana.Data.layout.fields.Place
      (Json.Field.omitted "splTransferData" Solana.SplTransfer.layout.codec) :=
    .later (show "splTransferData" ≠ "solTransferData" by decide) .here
  have transfer : Edit Wire.AddsNull Solana.SplTransfer.layout.codec (.obj [] true)
      (.obj [nullMember "assetPrice"] true) :=
    .members (.intro (.data .splTransfer (by decide)) [] [] (by simp)) true
  have first : Edit Wire.AddsNull (Record.codec .svm) (tokenSent [] [] [])
      (tokenSent [] [] [nullMember "assetPrice"]) :=
    Record.edit_around (.field place (.member [] [] true) (.optional transfer)) []
  have second : Edit Wire.AddsNull (Record.codec .svm) (tokenSent [] [] [nullMember "assetPrice"])
      (tokenSent [] [nullMember "solTransferData"] [nullMember "assetPrice"]) :=
    Record.edit_around (c := .svm) (.members (.intro (.data .solana (by decide)) [_] []
      (by simp [isNamed, ofString])) true) []
  have third : Edit Wire.AddsNull (Record.codec .svm)
      (tokenSent [] [nullMember "solTransferData"] [nullMember "assetPrice"])
      (tokenSent [nullMember "humanReadableDiff"] [nullMember "solTransferData"]
        [nullMember "assetPrice"]) :=
    .members (.intro (.headline .svm) [] [_] (by simp [isNamed, ofString])) true
  exact .tail (.tail (.single first) second) third

theorem read_nullsAdded_tokenSent :
    ∃ r, Document.read (codec (Record.codec .svm))
        ⟨around (.arr [tokenSent [nullMember "humanReadableDiff"] [nullMember "solTransferData"]
          [nullMember "assetPrice"]] true), true⟩ = .ok r ∧
      r.effects = [⟨"", .blank, .ofPayload (some (.splTransfer
        ⟨"", "", "", 0, 0, "", none, .blank⟩))⟩] := by
  have edited := edited_around edits_tokenSent
  exact ⟨_, read_nullsAdded edited rfl, rfl⟩

end Response

end SigningPreview
