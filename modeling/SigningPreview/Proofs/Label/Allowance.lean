import SigningPreview.Proofs.Label.Quantity
import SigningPreview.Proofs.Lists
import SigningPreview.Proofs.Text.Trim

/-! # Unlimited allowances can be told by their labels

The label of an allowance is a function of its number (`allowance_eq_map`), with two kinds of texts:
`Unlimited` and a symbol, or a quantity. A quantity begins with a digit, and trimming takes nothing
off the word `Unlimited`, so no symbol makes a label of one kind look like one of the other
(`allowanceLabel_begins_iff`). -/
namespace SigningPreview.Label

open Text

/-- Whether an allowance of `n` counts as unlimited: it is huge, or it is anything at all and
extends to a whole collection. -/
def Unlimited (operator : Bool) (n : Nat) : Prop :=
  Amount.unlimitedFrom ≤ n ∨ operator = true ∧ 0 < n

instance (operator : Bool) (n : Nat) : Decidable (Unlimited operator n) :=
  inferInstanceAs (Decidable (_ ∨ _))

/-- The word and the symbol, without blanks at the end. -/
def unlimitedLabel (symbol : String) : String :=
  String.ofList (trimEnd ("Unlimited ".toList ++ symbol.toList))

/-- The label of an allowance of `n`. -/
def allowanceLabel (n decimals : Nat) (symbol : String) (operator : Bool) : String :=
  if Unlimited operator n then unlimitedLabel symbol else quantity n decimals symbol

variable {a b : Amount} {m n decimals : Nat} {symbol label : String} {operator : Bool}

/-! ## The number decides -/

theorem Unlimited.mono (h : Unlimited operator m) (hmn : m ≤ n) : Unlimited operator n := by
  rcases h with huge | ⟨hoperator, hpos⟩
  · exact .inl (huge.trans hmn)
  · exact .inr ⟨hoperator, hpos.trans_le hmn⟩

theorem unlimited_iff : Unlimited operator n ↔
    (Amount.isUnlimited n || (operator && n != 0)) = true := by
  simp [Unlimited, Amount.isUnlimited, Nat.pos_iff_ne_zero]

theorem allowance_eq_map (a : Amount) (decimals : Nat) (symbol : String) (operator : Bool) :
    allowance a decimals symbol operator =
      a.value.map fun n => allowanceLabel n decimals symbol operator := by
  unfold allowance
  cases a.value with
  | error e => rfl
  | ok n =>
    by_cases h : Unlimited operator n
    · have shown : allowanceLabel n decimals symbol operator = unlimitedLabel symbol := if_pos h
      simp only [bind, Except.bind, Except.map, shown]
      exact if_pos (unlimited_iff.1 h)
    · have shown : allowanceLabel n decimals symbol operator = quantity n decimals symbol :=
        if_neg h
      simp only [bind, Except.bind, Except.map, shown]
      exact if_neg fun h' => h (unlimited_iff.2 h')

theorem allowance_of_value (h : a.value = .ok n) (decimals : Nat) (symbol : String)
    (operator : Bool) :
    allowance a decimals symbol operator = .ok (allowanceLabel n decimals symbol operator) := by
  rw [allowance_eq_map, h]
  rfl

theorem allowance_eq_error_iff {e : AmountError} :
    allowance a decimals symbol operator = .error e ↔ a.value = .error e := by
  rw [allowance_eq_map]
  cases a.value with
  | error e' => simp [Except.map]
  | ok n => simp [Except.map]

/-! ## The two kinds of labels -/

/-- A blank symbol leaves no trace, not even the blank in front of it. -/
theorem unlimitedLabel_of_blank (h : Blank symbol.toList) :
    unlimitedLabel symbol = "Unlimited" := by
  have blank : Blank (' ' :: symbol.toList) := List.forall_mem_cons.2 ⟨by decide, h⟩
  have word : "Unlimited ".toList ++ symbol.toList =
      "Unlimited".toList ++ ' ' :: symbol.toList := rfl
  rw [unlimitedLabel, word, trimEnd_append_blank blank]
  decide

theorem toList_unlimitedLabel (h : ¬ Blank symbol.toList) :
    (unlimitedLabel symbol).toList = "Unlimited ".toList ++ trimEnd symbol.toList := by
  have left : trimEnd symbol.toList ≠ [] := fun hnil => h (trimEnd_eq_nil_iff.1 hnil)
  rw [unlimitedLabel, String.toList_ofList, trimEnd_append, if_neg left]

/-- Trimming never reaches the word. -/
theorem unlimitedLabel_begins (symbol : String) :
    "Unlimited".toList <+: (unlimitedLabel symbol).toList := by
  by_cases h : Blank symbol.toList
  · rw [unlimitedLabel_of_blank h]
  · rw [toList_unlimitedLabel h]
    exact ⟨' ' :: trimEnd symbol.toList, rfl⟩

/-- The word begins with no digit. -/
theorem quantity_not_begins (n decimals : Nat) (symbol : String) :
    ¬ "Unlimited".toList <+: (quantity n decimals symbol).toList := by
  rintro ⟨rest, hrest⟩
  obtain ⟨d, hd, digit⟩ := quantity_begins n decimals symbol
  rw [← hrest] at hd
  cases hd
  cases digit

/-- A label tells whether the allowance is unlimited. -/
theorem allowanceLabel_begins_iff :
    "Unlimited".toList <+: (allowanceLabel n decimals symbol operator).toList ↔
      Unlimited operator n := by
  unfold allowanceLabel
  split
  · next h => exact ⟨fun _ => h, fun _ => unlimitedLabel_begins symbol⟩
  · next h => exact ⟨fun begins => absurd begins (quantity_not_begins _ _ _), fun h' => absurd h' h⟩

/-! ## Allowances -/

/-- What the allowances of a spender are shown as, whatever their symbol. -/
structure Allows (decimals : Nat) (symbol : String) (operator : Bool) : Prop where
  unreadable : ∀ a e, allowance a decimals symbol operator = .error e ↔ a.value = .error e
  /-- The word alone for a symbol of blanks, otherwise the word and the symbol, trimmed. -/
  unlimited : ∀ a n, a.value = .ok n → Unlimited operator n →
    ∃ label, allowance a decimals symbol operator = .ok label ∧
      "Unlimited".toList <+: label.toList ∧
      ((Blank symbol.toList ∧ label = "Unlimited") ∨
        (¬ Blank symbol.toList ∧ ∃ shown, TrimsTo symbol.toList shown ∧
          label.toList = "Unlimited ".toList ++ shown))
  limited : ∀ a n, a.value = .ok n → ¬ Unlimited operator n →
    allowance a decimals symbol operator = .ok (quantity n decimals symbol) ∧
      ∃ d ∈ (quantity n decimals symbol).toList.head?, d.isDigit = true
  /-- An amount beyond an unlimited one is shown as unlimited too. -/
  beyond : ∀ a b m n label, a.value = .ok m → b.value = .ok n → m ≤ n →
    allowance a decimals symbol operator = .ok label → "Unlimited".toList <+: label.toList →
    allowance b decimals symbol operator = .ok label
  /-- Nothing else is taken for unlimited. -/
  told : ∀ a n label, a.value = .ok n → allowance a decimals symbol operator = .ok label →
    ("Unlimited".toList <+: label.toList ↔ Unlimited operator n)

theorem allowance_allows (decimals : Nat) (symbol : String) (operator : Bool) :
    Allows decimals symbol operator := by
  constructor
  case unreadable =>
    intro a e
    exact allowance_eq_error_iff
  case unlimited =>
    intro a n hn hunlimited
    have shown : allowanceLabel n decimals symbol operator = unlimitedLabel symbol :=
      if_pos hunlimited
    refine ⟨unlimitedLabel symbol, ?_, unlimitedLabel_begins symbol, ?_⟩
    · rw [allowance_of_value hn, shown]
    · by_cases h : Blank symbol.toList
      · exact .inl ⟨h, unlimitedLabel_of_blank h⟩
      · exact .inr ⟨h, _, trimsTo_trimEnd _, toList_unlimitedLabel h⟩
  case limited =>
    intro a n hn hlimited
    have shown : allowanceLabel n decimals symbol operator = quantity n decimals symbol :=
      if_neg hlimited
    refine ⟨?_, quantity_begins n decimals symbol⟩
    rw [allowance_of_value hn, shown]
  case beyond =>
    intro a b m n label hm hn hmn hlabel begins
    rw [allowance_of_value hm] at hlabel
    cases hlabel
    have hunlimited := allowanceLabel_begins_iff.1 begins
    rw [allowance_of_value hn, allowanceLabel, allowanceLabel, if_pos hunlimited,
      if_pos (hunlimited.mono hmn)]
  case told =>
    intro a n label hn hlabel
    rw [allowance_of_value hn] at hlabel
    cases hlabel
    exact allowanceLabel_begins_iff

example : allowance ⟨" 01 "⟩ 18 "Unlimited \u3000" true = .ok "Unlimited Unlimited" ∧
    allowance ⟨" 01 "⟩ 18 "Unlimited \u3000" false = .ok "0 Unlimited \u3000" := by
  decide +kernel

end SigningPreview.Label
