import SigningPreview.Proofs.Strict.Record
import SigningPreview.Proofs.View.Amounts

/-! # Which effects have a view

The only thing that keeps a recognized effect from having a view is an amount that cannot be read:
`view_cases` names the three ways that an effect can go. The error is that of the first side that
cannot be read (`BalanceChange.fault?`), also where the words of a view read the sides one by one.
-/
namespace SigningPreview

namespace BalanceChange

/-- The error of the first side that cannot be read. -/
def fault? (b : BalanceChange) : Option AmountError :=
  match b.before.value, b.after.value with
  | .error e, _ => some e
  | .ok _, .error e => some e
  | .ok _, .ok _ => none

theorem fault?_eq_none_iff {b : BalanceChange} : b.fault? = none ↔ b.Readable := by
  unfold fault? Readable
  cases b.before.value <;> cases b.after.value <;> simp

/-- A fault shows on either side. -/
theorem fault?_cases {b : BalanceChange} {e : AmountError} (h : b.fault? = some e) :
    b.before.value = .error e ∨ ∃ n, b.before.value = .ok n ∧ b.after.value = .error e := by
  unfold fault? at h
  split at h
  · next hb => cases h; exact .inl hb
  · next n _ hb ha => cases h; exact .inr ⟨n, hb, ha⟩
  · cases h

theorem values_of_fault {b : BalanceChange} {e : AmountError} (h : b.fault? = some e) :
    b.values = .error e := by
  obtain hb | ⟨n, hn, ha⟩ := fault?_cases h
  · exact values_before hb
  · exact values_after hn ha

end BalanceChange

/-! ## EVM -/

namespace Evm.Payload

variable {p : Payload}

theorem view_ok (h : p.amount.Readable) :
    ∃ v, p.view = .ok v ∧ v.category = p.kind.category := by
  obtain ⟨⟨m, hm⟩, n, hn⟩ := h
  refine ⟨p.shows (m, n), ?_, p.category_shows (m, n)⟩
  rw [view_eq_map, BalanceChange.values_ok hm hn]
  rfl

theorem view_error {e : AmountError} (h : p.amount.fault? = some e) : p.view = .error e := by
  rw [view_eq_map, BalanceChange.values_of_fault h]
  rfl

end Evm.Payload

/-! ## Payloads and effects of either chain -/

/-- The error of the first amount of a payload that cannot be read. -/
def Chain.fault? (c : Chain) (p : c.Payload) : Option AmountError :=
  (c.amount? p).bind BalanceChange.fault?

theorem Chain.view_ok {c : Chain} {p : c.Payload} (h : c.fault? p = none) :
    ∃ v, c.view p = .ok v ∧ v.category = (c.kind p).category := by
  cases c with
  | evm => exact Evm.Payload.view_ok (BalanceChange.fault?_eq_none_iff.1 h)
  | svm => exact ⟨_, rfl, by cases p <;> rfl⟩

theorem Chain.view_error {c : Chain} {p : c.Payload} {e : AmountError} (h : c.fault? p = some e) :
    c.view p = .error e := by
  cases c with
  | evm => exact Evm.Payload.view_error h
  | svm => cases h

namespace Effect

variable {c : Chain}

/-- The error of the first amount of an effect that cannot be read. -/
def fault? (e : Effect c) : Option AmountError := e.payload.bind c.fault?

theorem category?_eq_none_iff {e : Effect c} : e.category? = none ↔ e.payload = none := by
  simp [category?, kind?]

/-- Without a payload there is no amount that could not be read. -/
theorem fault?_of_unrecognized {e : Effect c} (h : e.category? = none) : e.fault? = none := by
  rw [fault?, category?_eq_none_iff.1 h]; rfl

/-- An effect is not recognized, or has a view of its category, or has an amount that cannot be
read. -/
theorem view_cases (e : Effect c) :
    (e.category? = none ∧ e.view = .ok none) ∨
    (∃ v, e.category? = some v.category ∧ e.fault? = none ∧ e.view = .ok (some v)) ∨
    ∃ k error, e.category? = some k ∧ e.fault? = some error ∧ e.view = .error error := by
  cases hp : e.payload with
  | none => exact .inl ⟨category?_eq_none_iff.2 hp, by rw [view, hp]⟩
  | some p =>
    have hk : e.category? = some (c.kind p).category := by rw [category?, kind?, hp]; rfl
    have hf : e.fault? = c.fault? p := by rw [fault?, hp]; rfl
    have hv : e.view = (c.view p).map some := by rw [view, hp]
    cases hfault : c.fault? p with
    | none =>
      obtain ⟨v, hview, hcat⟩ := Chain.view_ok hfault
      exact .inr (.inl ⟨v, by rw [hk, hcat], hf.trans hfault, by rw [hv, hview]; rfl⟩)
    | some error =>
      exact .inr (.inr ⟨_, error, hk, hf.trans hfault, by rw [hv, Chain.view_error hfault]; rfl⟩)

end Effect

/-! ## Sound records -/

/-- The effect of a sound record has a view. -/
theorem Record.view_of_sound {c : Chain} {r : Record c} (h : r.Sound) :
    ∃ v, r.decode.category? = some v.category ∧ r.decode.view = .ok (some v) := by
  obtain ⟨p, hp⟩ := h
  have hpayload := decode_payload_of_only hp.only
  have hfault : r.decode.fault? = none := by
    rw [Effect.fault?, hpayload]
    cases hb : c.amount? p with
    | none => rw [Option.bind_some, Chain.fault?, hb]; rfl
    | some b =>
      rw [Option.bind_some, Chain.fault?, hb]
      exact BalanceChange.fault?_eq_none_iff.2 (hp.amount b hb)
  obtain ⟨hnone, -⟩ | ⟨v, hk, -, hv⟩ | ⟨_, _, -, herror, -⟩ := r.decode.view_cases
  · rw [Effect.category?_eq_none_iff, hpayload] at hnone
    cases hnone
  · exact ⟨v, hk, hv⟩
  · rw [hfault] at herror
    cases herror

end SigningPreview
