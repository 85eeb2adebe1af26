import SigningPreview.Amount
import SigningPreview.Proofs.Label.Token
import SigningPreview.Proofs.Text.Trim
import SigningPreview.Proofs.Text.Utf8

/-! # What is read as an amount

A text spells a number when it is blanks, digits, and blanks again. Trimming finds these digits
whenever there are any, so `value` has three ways to go (`value_cases`): a number that the text
spells, nothing in it but blanks, or a text to refuse. A reader that looks at the digits byte by
byte, and then reads them as it would read the number of a token, comes to the same end
(`value_eq_valueOfBytes`): all that the second reader admits beyond digits is refused by the first
look. -/
namespace SigningPreview.Amount

open Decimal Text

/-- Blanks, the digits of `n` with any number of zeros in front, and blanks again. -/
def Spells (cs : List Char) (n : Nat) : Prop :=
  ∃ front ds back, cs = front ++ ds ++ back ∧ Blank front ∧ Blank back ∧ ds ≠ [] ∧ Digits ds ∧
    Nat.ofDigits 10 (ds.map digit).reverse = n

/-! ## The digits of a text -/

section Digits

variable {cs : List Char} {n : Nat}

theorem trim_of_digits {front ds back : List Char} (hfront : Blank front) (hback : Blank back)
    (hds : Digits ds) : trim (front ++ ds ++ back) = ds :=
  trim_around hfront hback fun c hc => isBlank_of_isDigit (hds c hc)

/-- A text spells a number exactly when trimming leaves its digits. -/
theorem spells_iff : Spells cs n ↔ trim cs ≠ [] ∧ Digits (trim cs) ∧ Decimal.value (trim cs) = n := by
  constructor
  · rintro ⟨front, ds, back, rfl, hfront, hback, hne, hds, hn⟩
    rw [trim_of_digits hfront hback hds, Decimal.value_eq_ofDigits]
    exact ⟨hne, hds, hn⟩
  · rintro ⟨hne, hds, hn⟩
    obtain ⟨front, back, hcs, hfront, hback⟩ := exists_trim cs
    refine ⟨front, trim cs, back, hcs, hfront, hback, hne, hds, ?_⟩
    rw [← Decimal.value_eq_ofDigits, hn]

/-- Whatever stands in a text that spells a number is blank or a digit. -/
theorem Spells.blank_or_digit (h : Spells cs n) : ∀ c ∈ cs, isBlank c = true ∨ c.isDigit = true := by
  obtain ⟨front, ds, back, rfl, hfront, hback, -, hds, -⟩ := h
  intro c hc
  rcases List.mem_append.1 hc with hc | hc
  · rcases List.mem_append.1 hc with hc | hc
    · exact .inl (hfront c hc)
    · exact .inr (hds c hc)
  · exact .inl (hback c hc)

/-- A blank in such a text has nothing but blanks on one of its sides. -/
theorem Spells.blank_beside {before after : List Char} {b : Char} (hb : isBlank b = true)
    (h : Spells (before ++ b :: after) n) : Blank before ∨ Blank after := by
  obtain ⟨front, ds, back, hcs, hfront, hback, -, hds, -⟩ := h
  rw [List.append_assoc] at hcs
  obtain ⟨rest, rfl, hrest⟩ | ⟨rest, rfl, hrest⟩ := List.append_eq_append_iff.1 hcs
  · exact .inl fun c hc => hfront c (List.mem_append_left _ hc)
  · obtain ⟨middle, rfl, hmiddle⟩ | ⟨middle, rfl, hmiddle⟩ := List.append_eq_append_iff.1 hrest
    · refine .inr fun c hc => hback c ?_
      rw [hmiddle]
      simp [hc]
    · cases middle with
      | nil =>
        refine .inr fun c hc => hback c ?_
        rw [List.nil_append] at hmiddle
        simp [← hmiddle, hc]
      | cons d middle =>
        obtain ⟨rfl, -⟩ := List.cons.inj hmiddle
        have solid := isBlank_of_isDigit (hds b (by simp))
        rw [hb] at solid
        cases solid

end Digits

/-! ## The value -/

variable {a : Amount}

theorem value_of_blank (h : Blank a.text.toList) : a.value = .error .empty := by
  unfold Amount.value
  rw [trim_eq_nil_iff.2 h]

theorem value_of_spells {n : Nat} (h : Spells a.text.toList n) : a.value = .ok n := by
  obtain ⟨hne, hds, rfl⟩ := spells_iff.1 h
  have all : (trim a.text.toList).all Char.isDigit = true := List.all_eq_true.2 hds
  unfold Amount.value
  split
  · next hnil => exact absurd hnil hne
  · next c cs hcs =>
    rw [hcs] at all
    rw [if_pos all, hcs]
    rfl

theorem value_of_refused (hblank : ¬ Blank a.text.toList) (h : ∀ n, ¬ Spells a.text.toList n) :
    a.value = .error (.notAnInteger a.text) := by
  unfold Amount.value
  split
  · next hnil => exact absurd (trim_eq_nil_iff.1 hnil) hblank
  · next c cs hcs =>
    refine if_neg fun all => h (Decimal.value (trim a.text.toList)) (spells_iff.2 ⟨?_, ?_, rfl⟩)
    · simp [hcs]
    · rw [hcs]
      exact List.all_eq_true.1 all

/-- An amount has a value, or holds nothing, or is refused. -/
theorem value_cases (a : Amount) :
    (∃ n, Spells a.text.toList n ∧ a.value = .ok n) ∨
    (Blank a.text.toList ∧ a.value = .error .empty) ∨
    (¬ Blank a.text.toList ∧ (∀ n, ¬ Spells a.text.toList n) ∧
      a.value = .error (.notAnInteger a.text)) := by
  by_cases hn : ∃ n, Spells a.text.toList n
  · obtain ⟨n, hn⟩ := hn
    exact .inl ⟨n, hn, value_of_spells hn⟩
  · have none : ∀ n, ¬ Spells a.text.toList n := fun n h => hn ⟨n, h⟩
    by_cases hblank : Blank a.text.toList
    · exact .inr (.inl ⟨hblank, value_of_blank hblank⟩)
    · exact .inr (.inr ⟨hblank, none, value_of_refused hblank none⟩)

theorem value_eq_ok_iff {n : Nat} : a.value = .ok n ↔ Spells a.text.toList n := by
  refine ⟨fun h => ?_, value_of_spells⟩
  rcases a.value_cases with ⟨m, hm, hvalue⟩ | ⟨-, hvalue⟩ | ⟨-, -, hvalue⟩
  · rw [hvalue] at h
    cases h
    exact hm
  · rw [hvalue] at h
    cases h
  · rw [hvalue] at h
    cases h

theorem value_eq_empty_iff : a.value = .error .empty ↔ Blank a.text.toList := by
  refine ⟨fun h => ?_, value_of_blank⟩
  rcases a.value_cases with ⟨m, -, hvalue⟩ | ⟨hblank, -⟩ | ⟨-, -, hvalue⟩
  · rw [hvalue] at h
    cases h
  · exact hblank
  · rw [hvalue] at h
    cases h

/-- A number is the value of its decimal text. -/
theorem value_ofNat (n : Nat) : (ofNat n).value = .ok n := by
  refine value_of_spells ⟨[], Nat.toDigits 10 n, [], ?_, ?_, ?_, ?_, digits_toDigits n, ?_⟩
  · simp [ofNat, Nat.repr_eq_ofList_toDigits]
  · simp [Blank]
  · simp [Blank]
  · exact Nat.toDigits_ne_nil
  · rw [← Decimal.value_eq_ofDigits, value_toDigits]

/-! ## The value byte by byte -/

/-- The value that two looks find: the first one takes each byte of the trimmed text for a digit or
not, and the second one reads the text as any number is read. -/
def valueOfBytes (a : Amount) : Except AmountError Nat :=
  let body := trim a.text.toList
  if body = [] then .error .empty
  else if (utf8 body).all isDigitByte then
    match Label.ofDigits? 10 body with
    | some n => .ok n
    | none => .error (.notAnInteger a.text)
  else .error (.notAnInteger a.text)

/-- What passes the first look is read by the second. -/
theorem ofDigits?_of_bytes {cs : List Char} (hne : cs ≠ []) (h : (utf8 cs).all isDigitByte = true) :
    Label.ofDigits? 10 cs = some (Decimal.value cs) :=
  Label.ofDigits?_ten hne (digits_utf8_iff.1 h)

theorem value_eq_valueOfBytes (a : Amount) : a.value = a.valueOfBytes := by
  unfold valueOfBytes
  dsimp only
  split_ifs with hnil hbytes
  · exact value_of_blank (trim_eq_nil_iff.1 hnil)
  · rw [ofDigits?_of_bytes hnil hbytes]
    exact value_of_spells (spells_iff.2 ⟨hnil, digits_utf8_iff.1 hbytes, rfl⟩)
  · refine value_of_refused (fun hblank => hnil (trim_eq_nil_iff.2 hblank)) fun n hn => ?_
    exact hbytes (digits_utf8_iff.2 (spells_iff.1 hn).2.1)

/-! ## The grammar -/

/-- How the text of an amount is read. -/
structure Reads (a : Amount) : Prop where
  accepted : ∀ n, a.value = .ok n ↔ Spells a.text.toList n
  empty : a.value = .error .empty ↔ Blank a.text.toList
  /-- Any other text is refused, and told untrimmed. -/
  refused : ¬ Blank a.text.toList → (∀ n, ¬ Spells a.text.toList n) →
    a.value = .error (.notAnInteger a.text)
  /-- A sign, an underscore, a letter, a digit of another script: none is admitted anywhere. -/
  foreign : ∀ c ∈ a.text.toList, isBlank c = false → c.isDigit = false →
    a.value = .error (.notAnInteger a.text)
  /-- Nor is a blank between others. -/
  inner : ∀ before b after, a.text.toList = before ++ b :: after → isBlank b = true →
    ¬ Blank before → ¬ Blank after → a.value = .error (.notAnInteger a.text)
  bytes : a.value = a.valueOfBytes
  /-- The reader of numbers never fails behind the look at the bytes. -/
  reached : trim a.text.toList ≠ [] → (utf8 (trim a.text.toList)).all isDigitByte = true →
    ∃ n, Label.ofDigits? 10 (trim a.text.toList) = some n

theorem reads (a : Amount) : Reads a where
  accepted _ := value_eq_ok_iff
  empty := value_eq_empty_iff
  refused := value_of_refused
  foreign c hc solid other := by
    refine value_of_refused (fun hblank => ?_) fun n hn => ?_
    · rw [hblank c hc] at solid
      cases solid
    · rcases hn.blank_or_digit c hc with h | h
      · rw [h] at solid
        cases solid
      · rw [h] at other
        cases other
  inner before b after htext hb hbefore hafter := by
    refine value_of_refused (fun hblank => ?_) fun n hn => ?_
    · rw [htext] at hblank
      exact hbefore fun c hc => hblank c (List.mem_append_left _ hc)
    · rw [htext] at hn
      exact (hn.blank_beside hb).elim hbefore hafter
  bytes := value_eq_valueOfBytes a
  reached hne h := ⟨_, ofDigits?_of_bytes hne h⟩

/-- The amounts with a value are the decimal numerals between blanks, and every number has one. -/
theorem value_grammar : (∀ a, Reads a) ∧ ∀ n, (ofNat n).value = .ok n :=
  ⟨reads, value_ofNat⟩

example : Label.ofDigits? 10 "+1_000".toList = some 1000 ∧
    (Amount.mk "+1_000").value = .error (.notAnInteger "+1_000") := by decide +kernel

end SigningPreview.Amount
