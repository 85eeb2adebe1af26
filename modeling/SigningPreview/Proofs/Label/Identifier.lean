import Mathlib.Tactic.IntervalCases
import SigningPreview.Proofs.Label.Token
import SigningPreview.Proofs.Text.Case

/-! # One label for a token

The number of a token may be spelled in decimal or, behind a marker, in hexadecimal, with zeros in
front and letters in either case (`Spells`). Both readers find the number again
(`tokenNumber?_of_spells`) and the label is made from it, so a token has one label in a collection
(`token_labels`). Two tokens share a label only where the name holds the digits of both
(`Labels.eq_of_labels`). -/
namespace SigningPreview.Label

open Decimal

/-! ## Digits of a base -/

/-- A letter has the same value in either case. -/
theorem digitValue?_toLower (base : Nat) (c : Char) :
    digitValue? base c.toLower = digitValue? base c := by
  have code := Text.toNat_toLower c
  split_ifs at code with capital
  -- Only a capital changes, and it leaves the third range of digits for the second.
  · have between (a b d : Char) : a ≤ d ∧ d ≤ b ↔ a.toNat ≤ d.toNat ∧ d.toNat ≤ b.toNat :=
      and_congr UInt32.le_iff_toNat_le UInt32.le_iff_toNat_le
    have small : ¬ ('0' ≤ c.toLower ∧ c.toLower ≤ '9') ∧ 'a' ≤ c.toLower ∧ c.toLower ≤ 'z' := by
      rw [between, between, code]
      change ¬ (48 ≤ c.toNat + 32 ∧ c.toNat + 32 ≤ 57) ∧ 97 ≤ c.toNat + 32 ∧ c.toNat + 32 ≤ 122
      omega
    have large : ¬ ('0' ≤ c ∧ c ≤ '9') ∧ ¬ ('a' ≤ c ∧ c ≤ 'z') ∧ 'A' ≤ c ∧ c ≤ 'Z' := by
      rw [between, between, between]
      change ¬ (48 ≤ c.toNat ∧ c.toNat ≤ 57) ∧ ¬ (97 ≤ c.toNat ∧ c.toNat ≤ 122) ∧
        65 ≤ c.toNat ∧ c.toNat ≤ 90
      omega
    have value : c.toLower.toNat - 'a'.toNat = c.toNat - 'A'.toNat := by
      rw [code]
      exact Nat.add_sub_add_right c.toNat 32 65
    unfold digitValue?
    rw [if_neg small.1, if_pos small.2, if_neg large.1, if_neg large.2.1, if_pos large.2.2, value]
  · rw [Char.toNat_inj.1 code]

variable {base : Nat}

theorem digitValue?_digitChar (hbase : base ≤ 16) {d : Nat} (hd : d < base) :
    digitValue? base (Nat.digitChar d) = some d := by
  have small : d < 16 := hd.trans_le hbase
  interval_cases d <;> exact if_pos hd

/-- The value of a digit as a number; what is no digit counts for nothing. -/
def digitNumber (base : Nat) (c : Char) : Nat := (digitValue? base c).getD 0

theorem map_digitNumber (hbase : base ≤ 16) {cs : List Char} {ds : List Nat}
    (hds : ∀ d ∈ ds, d < base) (hcs : cs.map Char.toLower = ds.map Nat.digitChar) :
    (∀ c ∈ cs, digitValue? base c = some (digitNumber base c)) ∧
      cs.map (digitNumber base) = ds := by
  induction ds generalizing cs with
  | nil =>
    rw [List.map_eq_nil_iff.1 hcs]
    simp
  | cons d ds ih =>
    obtain ⟨c, cs, rfl, hc, hrest⟩ := List.map_eq_cons_iff.1 hcs
    obtain ⟨hd, hds⟩ := List.forall_mem_cons.1 hds
    obtain ⟨each, numbers⟩ := ih hds hrest
    have value : digitValue? base c = some d := by
      rw [← digitValue?_toLower, hc, digitValue?_digitChar hbase hd]
    have number : digitNumber base c = d := by
      rw [digitNumber, value]
      rfl
    refine ⟨List.forall_mem_cons.2 ⟨by rw [value, number], each⟩, ?_⟩
    rw [List.map_cons, number, numbers]

/-- Digits of the base in either case, with zeros in front, are read as the number they write. -/
theorem ofDigits?_of_toLower (h : 2 ≤ base) (hbase : base ≤ 16) {zeros n : Nat} {cs : List Char}
    (hcs : cs.map Char.toLower = List.replicate zeros '0' ++ Nat.toDigits base n) :
    ofDigits? base cs = some n := by
  have nonempty : cs ≠ [] := by
    rintro rfl
    exact Nat.toDigits_ne_nil (List.append_eq_nil_iff.1 hcs.symm).2
  obtain ⟨ds, hds, bound, hvalue⟩ := Radix.exists_toDigits h n
  have written : cs.map Char.toLower = (List.replicate zeros 0 ++ ds).map Nat.digitChar := by
    rw [hcs, hds, List.map_append, List.map_replicate]
    rfl
  have padded : ∀ d ∈ List.replicate zeros 0 ++ ds, d < base := by
    refine List.forall_mem_append.2 ⟨fun d hd => ?_, bound⟩
    rw [List.eq_of_mem_replicate hd]
    exact Nat.zero_lt_of_lt h
  obtain ⟨each, numbers⟩ := map_digitNumber hbase padded written
  rw [ofDigits?_of_values nonempty each, numbers, Radix.value_replicate_append, hvalue]

/-! ## Spellings -/

/-- The texts that denote `n`: decimal or, behind a marker, hexadecimal digits, of letters in either
case, with any number of zeros in front. -/
inductive Spells : List Char → Nat → Prop
  | decimal (zeros n : Nat) : Spells (List.replicate zeros '0' ++ Nat.toDigits 10 n) n
  | hexadecimal {ds : List Char} {zeros n : Nat} :
    ds.map Char.toLower = List.replicate zeros '0' ++ Nat.toDigits 16 n →
    Spells ('0' :: 'x' :: ds) n

/-- Of decimal digits none is taken for a letter. -/
theorem tokenNumber?_decimal (zeros n : Nat) :
    tokenNumber? (List.replicate zeros '0' ++ Nat.toDigits 10 n) = some n := by
  have digits : Digits (List.replicate zeros '0' ++ Nat.toDigits 10 n) :=
    (digits_replicate zeros).append (digits_toDigits n)
  have nonempty : List.replicate zeros '0' ++ Nat.toDigits 10 n ≠ [] := by simp
  unfold tokenNumber?
  split
  · next rest hmarker =>
    rw [hmarker] at digits
    exact absurd (digits 'x' (by simp)) (by decide)
  · rw [ofDigits?_ten nonempty digits, value_append, value_replicate, value_toDigits, Nat.zero_mul,
      Nat.zero_add]

theorem tokenNumber?_of_spells {cs : List Char} {n : Nat} (h : Spells cs n) :
    tokenNumber? cs = some n := by
  cases h with
  | decimal zeros => exact tokenNumber?_decimal zeros n
  | hexadecimal hds => exact ofDigits?_of_toLower (by decide) le_rfl hds

theorem ne_nil_of_spells {cs : List Char} {n : Nat} (h : Spells cs n) : cs ≠ [] := by
  cases h <;> simp

/-! ## Labels -/

/-- The label of the token `n` of a collection: its number stands behind the name, unless its digits
occur in the name. -/
structure Labels (name : String) (n : Nat) (label : String) : Prop where
  alone : n.repr.toList <:+: name.toList → label = name
  behind : ¬ n.repr.toList <:+: name.toList → label = name ++ " #" ++ n.repr

variable {name label : String} {n m : Nat}

theorem numbered_labels (name : String) (n : Nat) : Labels name n (numbered name n.repr) :=
  ⟨numbered_of_occurs, numbered_of_not_occurs⟩

theorem token_labels {id : String} (h : Spells id.toList n) : Labels name n (token name id) := by
  rw [token, tokenNumber?_of_spells h]
  exact numbered_labels name n

theorem Labels.eq_numbered (h : Labels name n label) : label = numbered name n.repr := by
  by_cases occurs : n.repr.toList <:+: name.toList
  · rw [h.alone occurs, numbered_of_occurs occurs]
  · rw [h.behind occurs, numbered_of_not_occurs occurs]

/-- A name with something behind it is another text. -/
theorem behind_ne (name number : String) : name ++ " #" ++ number ≠ name := by
  intro same
  have length := congrArg (fun s => s.toList.length) same
  simp at length

/-- Tokens with one label are one token, unless the name holds the digits of both. -/
theorem Labels.eq_of_labels (hn : Labels name n label) (hm : Labels name m label)
    (apart : ¬ (n.repr.toList <:+: name.toList ∧ m.repr.toList <:+: name.toList)) : n = m := by
  by_cases occursN : n.repr.toList <:+: name.toList
  · have absent : ¬ m.repr.toList <:+: name.toList := fun occursM => apart ⟨occursN, occursM⟩
    exact absurd ((hm.behind absent).symm.trans (hn.alone occursN)) (behind_ne name _)
  · by_cases occursM : m.repr.toList <:+: name.toList
    · exact absurd ((hn.behind occursN).symm.trans (hm.alone occursM)) (behind_ne name _)
    · have same := congrArg String.toList ((hn.behind occursN).symm.trans (hm.behind occursM))
      simp only [String.toList_append, Nat.toList_repr] at same
      have digits : Nat.toDigits 10 n = Nat.toDigits 10 m := List.append_cancel_left same
      rw [← value_toDigits n, digits, value_toDigits]

end SigningPreview.Label
