import SigningPreview.Proofs.Wire.Places

/-! # Members a reader does not know

A later version of the format may write more than this one reads, and in another order. Main
statement: when the members of any objects that stand for records are permuted, and members of
names that these records do not know are put among them, whatever their values, then the same
response is read (`Response.read_extended`). -/
namespace SigningPreview

open Json (Codec Document Edit Fields Layout Node Rule)
open Json.Node (ofMembers ofString)

/-- A member of a name that none of the fields has, with any value that is JSON. Names are texts: a
key whose escapes stand for no character is not one, and no reader takes it. -/
def Json.Fields.Unknown {γ σ : Type} (fields : Fields γ σ) (m : Node × Node) : Prop :=
  ∃ name, m.1 = .str (some name) ∧ name ∉ fields.names ∧ m.2.intact = true

/-- Members are permuted, and unknown ones put among them. -/
inductive Json.Extends : Rule
  | intro {ρ : Type} {l : Layout ρ} {members members' : List (Node × Node)}
    (extra : List (Node × Node)) (unknown : ∀ m ∈ extra, l.fields.Unknown m)
    (perm : members'.Perm (extra ++ members)) : Extends l members members'

theorem Json.Fields.Matches.append_unknown {γ σ : Type} {fields : Fields γ σ}
    {extra members : List (Node × Node)} {values : γ} (unknown : ∀ m ∈ extra, fields.Unknown m)
    (h : fields.Matches members values) : fields.Matches (extra ++ members) values := by
  induction extra with
  | nil => exact h
  | cons m extra ih =>
    obtain ⟨⟨name, hkey, hname, hvalue⟩, hextra⟩ := List.forall_mem_cons.1 unknown
    obtain ⟨key, value⟩ := m
    subst hkey
    exact (ih hextra).cons_unknown hname hvalue

theorem Json.extends_faithful : Rule.Faithful Extends := by
  rintro ρ l members members' values ⟨extra, unknown, perm⟩ h
  exact (h.append_unknown unknown).perm perm.symm

/-- The effects may be the records as they were received or what is decoded from them: `effect` is
the codec of either. -/
theorem Response.read_extended {α : Type} {effect : Codec α} {d d' : Document}
    (h : d.Edited Json.Extends (Response.codec effect) d') {r : Response α}
    (hr : d.read (Response.codec effect) = .ok r) : d'.read (Response.codec effect) = .ok r :=
  h.read Json.extends_faithful hr

/-! ## A payload of a later version -/

namespace Response

def transfers : List (Node × Node) :=
  [(ofString "nativeAssetTransferData", ofMembers []), (ofString "erc20TransferData", ofMembers [])]

/-- Members of a name that is not known: one is a tree with a string that stands for no text. -/
def permits : List (Node × Node) :=
  [(ofString "permitData", .arr [.obj [(.str none, .str none)] true] true),
    (ofString "permitData", .null)]

/-- The transfers the other way round, with the permits around them. -/
def permitted : List (Node × Node) := permits.take 1 ++ transfers.reverse ++ permits.drop 1

theorem extends_permitted : Json.Extends Evm.Data.layout transfers permitted := by
  refine .intro permits ?_ ?_
  · have unknown : "permitData" ∉ Evm.Data.layout.fields.names := by decide
    rw [permits, List.forall_mem_cons, List.forall_mem_singleton]
    exact ⟨⟨_, rfl, unknown, rfl⟩, ⟨_, rfl, unknown, rfl⟩⟩
  · exact .cons _ (List.perm_append_comm.trans (.cons _ transfers.reverse_perm))

theorem read_extended_permitted :
    ∃ r, Document.read (codec (Effect.codec .evm))
        ⟨around (.arr [Record.around [] (.obj permitted true)] true), true⟩ = .ok r ∧
      r.effects.map Effect.kind? = [some .erc20Transfer] := by
  have data : Edit Json.Extends (Chain.dataCodec .evm) (.obj transfers true) (.obj permitted true) :=
    .members extends_permitted true
  have effect : Edit Json.Extends (Effect.codec .evm) (Record.around [] (.obj transfers true))
      (Record.around [] (.obj permitted true)) :=
    .map _ _ (Record.edit_around data [])
  have edited := edited_around (.single effect)
  exact ⟨_, read_extended edited rfl, rfl⟩

end Response

end SigningPreview
