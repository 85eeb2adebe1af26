import SigningPreview.Label.Token
import SigningPreview.Proofs.Decimal
import SigningPreview.Proofs.Lists

/-! # What the label of a token mentions

The number of a token is read from digits in one of two bases; on plain decimal digits that reading
is the usual one (`ofDigits?_ten`). A label then begins with the name, and leaves the number out as
soon as its digits occur in the name (`occursIn_iff`). That is not the same as the name mentioning
the number: the digits may be part of a longer one (`not_forall_token_mentions`). `token_names` says
which labels do mention the number of their token. -/
namespace SigningPreview.Label

open Decimal

/-! ## Numbers of tokens -/

section Numbers

variable {base : Nat} {cs : List Char}

/-- Signs and underscores are no digits, in whatever base. -/
theorem digitValue?_separator (base : Nat) :
    digitValue? base '+' = none ∧ digitValue? base '_' = none := by
  constructor
  · exact if_neg (Nat.lt_irrefl base)
  · exact if_neg (Nat.lt_irrefl base)

theorem digitValue?_of_isDigit (hbase : 10 ≤ base) {c : Char} (h : c.isDigit = true) :
    digitValue? base c = some (digit c) := by
  have range : '0' ≤ c ∧ c ≤ '9' := by
    simpa [Char.isDigit, Char.le_def] using h
  have small : digit c < base := (digit_lt h).trans_le hbase
  unfold digitValue?
  rw [if_pos range]
  exact if_pos small

/-- Digits without signs and underscores are read by their places. -/
theorem ofDigits?_of_values {value : Char → Nat} (hne : cs ≠ [])
    (h : ∀ c ∈ cs, digitValue? base c = some (value c)) :
    ofDigits? base cs = some (Radix.value base (cs.map value)) := by
  obtain ⟨plus, underscore⟩ := digitValue?_separator base
  have notPlus : ∀ c ∈ cs, c ≠ '+' := by
    rintro c hc rfl
    rw [h _ hc] at plus
    cases plus
  have notUnderscore : ∀ c ∈ cs, c ≠ '_' := by
    rintro c hc rfl
    rw [h _ hc] at underscore
    cases underscore
  have kept : cs.filter (· ≠ '_') = cs :=
    List.filter_eq_self.2 fun c hc => decide_eq_true (notUnderscore c hc)
  have unsigned : dropPlus cs = cs := by
    unfold dropPlus
    split
    · next rest => exact absurd rfl (notPlus '+' (by simp))
    · rfl
  unfold ofDigits?
  rw [unsigned]
  split
  · exact absurd rfl hne
  · next rest => exact absurd rfl (notUnderscore '_' (by simp))
  · rw [kept, mapM_eq_some h]
    rfl

/-- Decimal digits denote what they always do. -/
theorem ofDigits?_ten (hne : cs ≠ []) (h : Digits cs) : ofDigits? 10 cs = some (value cs) := by
  rw [ofDigits?_of_values hne fun c hc => digitValue?_of_isDigit le_rfl (h c hc), value_eq_radix]

end Numbers

/-! ## Numbers in texts -/

theorem occursIn_iff {part cs : List Char} : occursIn part cs = true ↔ part <:+: cs := by
  induction cs with
  | nil => simp [occursIn]
  | cons c cs ih =>
    rw [occursIn, Bool.or_eq_true, ih, List.isPrefixOf_iff_prefix, List.infix_cons_iff]

/-- The digits of `n` stand in a text, with no digit right before them or right behind them. -/
def Mentions (n : Nat) (cs : List Char) : Prop :=
  ∃ front back, cs = front ++ n.repr.toList ++ back ∧
    front.getLast?.any Char.isDigit = false ∧ back.head?.any Char.isDigit = false

variable {n : Nat} {cs : List Char}

/-- Where the digits stand is a place among finitely many. -/
theorem mentions_iff_exists_place :
    Mentions n cs ↔ ∃ k < cs.length + 1, n.repr.toList <+: cs.drop k ∧
      (cs.take k).getLast?.any Char.isDigit = false ∧
      (cs.drop (k + n.repr.toList.length)).head?.any Char.isDigit = false := by
  constructor
  · rintro ⟨front, back, rfl, hfront, hback⟩
    refine ⟨front.length, ?_, ?_, ?_, ?_⟩
    · simp
    · simp
    · simpa using hfront
    · simpa [← List.drop_drop] using hback
  · rintro ⟨k, -, ⟨back, hback⟩, hbefore, hbehind⟩
    refine ⟨cs.take k, back, ?_, hbefore, ?_⟩
    · rw [List.append_assoc, hback, List.take_append_drop]
    · simpa [← List.drop_drop, ← hback] using hbehind

instance : Decidable (Mentions n cs) := decidable_of_iff _ mentions_iff_exists_place.symm

/-! ## Labels -/

theorem numbered_of_occurs {name number : String} (h : number.toList <:+: name.toList) :
    numbered name number = name := by
  rw [numbered, if_pos (occursIn_iff.2 h)]

theorem numbered_of_not_occurs {name number : String} (h : ¬ number.toList <:+: name.toList) :
    numbered name number = name ++ " #" ++ number :=
  if_neg fun occurs => h (occursIn_iff.1 occurs)

theorem prefix_numbered (name number : String) : name.toList <+: (numbered name number).toList := by
  by_cases h : number.toList <:+: name.toList
  · rw [numbered_of_occurs h]
  · simp [numbered_of_not_occurs h]

/-- A label begins with the name, whatever the identifier. -/
theorem prefix_token (name id : String) : name.toList <+: (token name id).toList := by
  unfold token
  split
  · exact prefix_numbered name _
  · split_ifs with blank
    · exact List.prefix_rfl
    · exact prefix_numbered name id

/-- A number behind a name is mentioned: nothing follows it, and a sharp stands before it. -/
theorem mentions_numbered (name : String) (n : Nat) :
    Mentions n (name ++ " #" ++ n.repr).toList := by
  refine ⟨name.toList ++ [' ', '#'], [], ?_, ?_, ?_⟩
  · simp
  · rw [List.getLast?_append_of_ne_nil _ (by simp)]
    rfl
  · rfl

/-- How the token `n` of a collection is labelled. -/
structure Names (name : String) (n : Nat) (label : String) : Prop where
  begins : name.toList <+: label.toList
  /-- The number is left out exactly when its digits occur in the name, wherever they do. -/
  alone : label = name ↔ n.repr.toList <:+: name.toList
  behind : ¬ n.repr.toList <:+: name.toList → label = name ++ " #" ++ n.repr
  /-- The number is mentioned unless its digits occur in the name, but only in longer numbers. -/
  mentions : Mentions n label.toList ↔
    (n.repr.toList <:+: name.toList → Mentions n name.toList)

theorem token_names {name id : String} {n : Nat} (h : tokenNumber? id.toList = some n) :
    Names name n (token name id) := by
  have label : token name id = numbered name n.repr := by rw [token, h]
  constructor
  case begins => exact prefix_token name id
  case alone =>
    rw [label]
    refine ⟨fun same => ?_, numbered_of_occurs⟩
    by_contra absent
    rw [numbered_of_not_occurs absent] at same
    have length := congrArg (fun s => s.toList.length) same
    simp at length
  case behind =>
    intro absent
    rw [label, numbered_of_not_occurs absent]
  case mentions =>
    by_cases occurs : n.repr.toList <:+: name.toList
    · rw [label, numbered_of_occurs occurs]
      exact ⟨fun mentioned _ => mentioned, fun mentioned => mentioned occurs⟩
    · rw [label, numbered_of_not_occurs occurs]
      exact ⟨fun _ occurs' => absurd occurs' occurs, fun _ => mentions_numbered name n⟩

theorem token_names_hexadecimal :
    tokenNumber? "0x01C46".toList = some 7238 ∧
      token "Penguins 17238" "0x01C46" = "Penguins 17238" ∧
      Names "Penguins 17238" 7238 (token "Penguins 17238" "0x01C46") := by
  have number : tokenNumber? "0x01C46".toList = some 7238 := by decide +kernel
  exact ⟨number, by decide +kernel, token_names number⟩

/-- The token 7238 of a collection whose name ends in 17238 is shown by that name alone. -/
theorem not_forall_token_mentions :
    ¬ ∀ (name id : String) (n : Nat), name ≠ "" → tokenNumber? id.toList = some n →
      name.toList <+: (token name id).toList ∧ Mentions n (token name id).toList := by
  intro h
  have mentioned := (h "Penguins 17238" "7238" 7238 (by decide) (by decide +kernel)).2
  exact absurd mentioned (by decide +kernel)

end SigningPreview.Label
