import SigningPreview.Proofs.Amount.Reading
import SigningPreview.Proofs.Report.Congruence
import SigningPreview.Proofs.Report.Header
import SigningPreview.Proofs.View.Amounts

/-! # An amount matters by its value

A provider may write one number in many ways: with zeros in front, with blanks around it. Amounts of
EVM records that are written anew with the same number in them (`Record.Respelled`) leave the view
of every payload as it was, because a view is made from the numbers, and the check as well, because
it asks for nothing but a number. So the records are alike, the strict rules have the same verdict
on each, and no run of either mode tells the responses apart (`Record.indistinct_of_respelled`). -/
namespace SigningPreview

/-! ## Respelling -/

/-- An amount that may have been written anew: with the same number in it, or not at all. -/
inductive Amount.Respelled (a : Amount) : Amount → Prop
  | same : Respelled a a
  | anew {a' : Amount} (n : Nat) (h : Spells a.text.toList n) (h' : Spells a'.text.toList n) :
    Respelled a a'

/-- A balance change in which either side may have been written anew. -/
structure BalanceChange.Respelled (b b' : BalanceChange) : Prop where
  before : b.before.Respelled b'.before
  after : b.after.Respelled b'.after

/-- A payload of which nothing but the amounts may have been written anew. -/
def Evm.Payload.Respelled (p p' : Payload) : Prop :=
  ∃ b, p.amount.Respelled b ∧ p' = p.withAmount b

/-- A record in which the amounts of any of its payloads may have been written anew. Its data object
says nothing besides its payloads (`Chain.eq_of_payloads_eq`). -/
structure Record.Respelled (s s' : Record .evm) : Prop where
  headline : s.headline = s'.headline
  tag : s.tag = s'.tag
  payloads : List.Forall₂ Evm.Payload.Respelled (Chain.evm.payloads s.data)
    (Chain.evm.payloads s'.data)

namespace Amount

variable {a a' : Amount}

theorem Respelled.value_eq (h : a.Respelled a') : a.value = a'.value := by
  cases h with
  | same => rfl
  | anew n h h' => rw [value_of_spells h, value_of_spells h']

/-- Readable amounts with the same value are spellings of one number. -/
theorem respelled_of_value {n : Nat} (h : a.value = .ok n) (h' : a'.value = .ok n) :
    a.Respelled a' :=
  .anew n (value_eq_ok_iff.1 h) (value_eq_ok_iff.1 h')

end Amount

theorem BalanceChange.Respelled.values_eq {b b' : BalanceChange} (h : b.Respelled b') :
    b.values = b'.values := by
  rw [values, values, h.before.value_eq, h.after.value_eq]

/-! ## Payloads -/

namespace Evm.Payload.Respelled

variable {p p' : Payload}

theorem kind_eq (h : p.Respelled p') : p.kind = p'.kind := by
  obtain ⟨b, -, rfl⟩ := h
  rw [kind_withAmount]

theorem view_eq (h : p.Respelled p') : p.view = p'.view := by
  obtain ⟨b, same, rfl⟩ := h
  rw [view_withAmount, view_eq_map, same.values_eq]

/-- Whether a payload holds up is up to its numbers and its addresses. -/
theorem check_eq (h : p.Respelled p') : Chain.evm.check p = Chain.evm.check p' := by
  obtain ⟨b, same, rfl⟩ := h
  have amount : Chain.evm.checkAmount p = Chain.evm.checkAmount (p.withAmount b) := by
    change p.amount.check = (p.withAmount b).amount.check
    rw [amount_withAmount, BalanceChange.check, BalanceChange.check, same.values_eq]
  have addresses : Chain.evm.addresses p = Chain.evm.addresses (p.withAmount b) :=
    (addresses_withAmount p b).symm
  rw [Chain.check, Chain.check, amount, addresses]

end Evm.Payload.Respelled

/-! ## Effects and records -/

/-- An effect of which nothing but the amounts may have been written anew. -/
structure Effect.Respelled (e e' : Effect .evm) : Prop where
  headline : e.headline = e'.headline
  payload : Option.Rel Evm.Payload.Respelled e.payload e'.payload

namespace Effect.Respelled

variable {e e' : Effect .evm}

theorem alike (h : e.Respelled e') : e.Alike e' := by
  obtain ⟨headline, payload⟩ := h
  refine ⟨headline, ?_, ?_⟩
  · unfold category? kind?
    generalize e.payload = p, e'.payload = p' at payload ⊢
    cases payload with
    | none => rfl
    | some respelled => exact congrArg (fun k => some k.category) respelled.kind_eq
  · unfold view
    generalize e.payload = p, e'.payload = p' at payload ⊢
    cases payload with
    | none => rfl
    | some respelled => exact congrArg (Except.map some) respelled.view_eq

theorem check_eq (h : e.Respelled e') : e.check = e'.check := by
  have payload := h.payload
  unfold check
  generalize e.payload = p, e'.payload = p' at payload ⊢
  cases payload with
  | none => rfl
  | some respelled => exact respelled.check_eq

end Effect.Respelled

namespace Record.Respelled

variable {s s' : Record .evm}

theorem kinds_eq (h : s.Respelled s') : s.kinds = s'.kinds := by
  rw [kinds_eq_map, kinds_eq_map]
  exact map_eq_of_forall₂ h.payloads fun _ _ => Evm.Payload.Respelled.kind_eq

/-- The payload that counts is the same one, with its amounts written anew. -/
theorem decode (h : s.Respelled s') : s.decode.Respelled s'.decode where
  headline := h.headline
  payload := by
    rw [decode_payload, decode_payload]
    exact head?_rel_of_forall₂ h.payloads

theorem alike (h : s.Respelled s') : s.Alike s' := ⟨h.kinds_eq, h.decode.alike⟩

theorem sameVerdict (h : s.Respelled s') : s.SameVerdict s' :=
  Record.sameVerdict h.tag h.kinds_eq h.decode.check_eq h.decode.alike.category

end Record.Respelled

/-! ## Runs -/

namespace Record

/-- Two lists of records between which nothing that comes out of them makes a difference. -/
structure Indistinct {c : Chain} (rs rs' : List (Record c)) : Prop where
  views : List.Forall₂ (fun s s' => s.decode.view = s'.decode.view) rs rs'
  accepted : (∃ g, Grouping.ofRecordsStrict rs = .ok g) ↔ ∃ g, Grouping.ofRecordsStrict rs' = .ok g
  /-- The reports are the same, and so are the events, and so is the refusal if there is one. -/
  outcomes : ∀ (r : Response (Record c)) (isStrict : Bool),
    Outcome.ofResponse isStrict { r with effects := rs } =
      Outcome.ofResponse isStrict { r with effects := rs' }
  texts : ∀ (r : Response (Record c)) (isStrict : Bool) (text text' : String),
    Response.ofText c text = .ok { r with effects := rs } →
      Response.ofText c text' = .ok { r with effects := rs' } →
        Outcome.ofText c isStrict text = Outcome.ofText c isStrict text'

/-- Amounts that are written anew, in any of the records, make no difference. -/
theorem indistinct_of_respelled {rs rs' : List (Record .evm)}
    (h : List.Forall₂ Record.Respelled rs rs') : Indistinct rs rs' := by
  have alike : List.Forall₂ Alike rs rs' := h.imp fun _ _ => Respelled.alike
  have verdicts : List.Forall₂ SameVerdict rs rs' := h.imp fun _ _ => Respelled.sameVerdict
  -- Strict runs need both: a refusal comes from the verdicts, an outcome from what is alike.
  have outcomes (r : Response (Record .evm)) (isStrict : Bool) :
      Outcome.ofResponse isStrict { r with effects := rs } =
        Outcome.ofResponse isStrict { r with effects := rs' } := by
    cases isStrict with
    | true => exact Outcome.strict_congr r alike verdicts
    | false => exact congrArg Except.ok (Outcome.lenient_congr r alike)
  refine ⟨alike.imp fun _ _ same => same.effect.view, ?_, outcomes, ?_⟩
  · exact exists_ok_iff_of_verdict (Grouping.ofRecordsStrict_congr verdicts)
  · intro r isStrict text text' htext htext'
    rw [Outcome.ofText_eq htext, Outcome.ofText_eq htext', outcomes]

/-- A coin transfer and an approval of a collection, of which three amounts are left open. -/
def paidAndApproved (before after allowance : Amount) : List (Record .evm) :=
  [⟨"Send some ETH", .known .nativeAssetTransfer, .ofPayload (some (.nativeTransfer
      ⟨⟨before, after⟩, .blank, { Asset.blank with symbol := "ETH", decimals := 1 }⟩))⟩,
    ⟨"Approve all", .other "", .ofPayload (some (.erc1155Operator
      ⟨⟨⟨"0"⟩, allowance⟩, .blank, .blank, .blank, none⟩))⟩]

theorem indistinct_paidAndApproved :
    Indistinct (paidAndApproved ⟨"12"⟩ ⟨"7"⟩ ⟨"1"⟩)
      (paidAndApproved ⟨" 0012\n"⟩ ⟨"007"⟩ ⟨"\t1"⟩) ∧
    ∃ g, Grouping.ofRecordsStrict (paidAndApproved ⟨"12"⟩ ⟨"7"⟩ ⟨"1"⟩) = .ok g := by
  have before : Amount.Respelled ⟨"12"⟩ ⟨" 0012\n"⟩ := Amount.respelled_of_value rfl rfl
  have after : Amount.Respelled ⟨"7"⟩ ⟨"007"⟩ := Amount.respelled_of_value rfl rfl
  have allowance : Amount.Respelled ⟨"1"⟩ ⟨"\t1"⟩ := Amount.respelled_of_value rfl rfl
  refine ⟨indistinct_of_respelled (.cons ?_ (.cons ?_ .nil)), _, rfl⟩
  · exact ⟨rfl, rfl, .cons ⟨⟨⟨" 0012\n"⟩, ⟨"007"⟩⟩, ⟨before, after⟩, rfl⟩ .nil⟩
  · exact ⟨rfl, rfl, .cons ⟨⟨⟨"0"⟩, ⟨"\t1"⟩⟩, ⟨.same, allowance⟩, rfl⟩ .nil⟩

end Record

end SigningPreview
