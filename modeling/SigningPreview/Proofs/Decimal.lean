import SigningPreview.Proofs.Json.Lexical
import SigningPreview.Proofs.Radix

/-! # Decimal digits

What a text of decimal digits denotes. Cutting such a text in two divides its value by a power of
ten, with the quotient in front and the remainder behind (`value_take_drop`); and a text without
leading zeros is the only one of its value (`Numeral.eq_of_value_eq`). -/
namespace SigningPreview.Decimal

/-- The value of a digit. -/
def digit (c : Char) : Nat := c.toNat - '0'.toNat

def Digits (ds : List Char) : Prop := ∀ c ∈ ds, c.isDigit = true

/-- The number that digits denote, most significant digit first. -/
def value (ds : List Char) : Nat := Nat.ofDigitChars 10 ds 0

variable {ds es : List Char}

theorem toNat_of_isDigit {c : Char} (h : c.isDigit = true) : 48 ≤ c.toNat ∧ c.toNat ≤ 57 := by
  simp only [Char.isDigit, ge_iff_le, Bool.and_eq_true, decide_eq_true_eq] at h
  exact ⟨UInt32.le_iff_toNat_le.1 h.1, UInt32.le_iff_toNat_le.1 h.2⟩

theorem digit_lt {c : Char} (h : c.isDigit = true) : digit c < 10 := by
  have range := toNat_of_isDigit h
  change c.toNat - 48 < 10
  omega

theorem digit_inj {c d : Char} (hc : c.isDigit = true) (hd : d.isDigit = true)
    (h : digit c = digit d) : c = d := by
  have rangeC := toNat_of_isDigit hc
  have rangeD := toNat_of_isDigit hd
  change c.toNat - 48 = d.toNat - 48 at h
  refine Char.toNat_inj.1 ?_
  omega

theorem eq_zero_of_digit {c : Char} (hc : c.isDigit = true) (h : digit c = 0) : c = '0' :=
  digit_inj hc rfl h

theorem Digits.append (hds : Digits ds) (hes : Digits es) : Digits (ds ++ es) :=
  List.forall_mem_append.2 ⟨hds, hes⟩

theorem Digits.of_sublist (hes : Digits es) (h : ds.Sublist es) : Digits ds :=
  fun c hc => hes c (h.subset hc)

theorem digits_replicate (k : Nat) : Digits (List.replicate k '0') := by
  intro c hc
  rw [List.eq_of_mem_replicate hc]
  rfl

theorem digits_toDigits (n : Nat) : Digits (Nat.toDigits 10 n) := Json.Token.isDigit_of_mem_toDigits

theorem Digits.map_lt (h : Digits ds) : ∀ d ∈ ds.map digit, d < 10 := by
  intro d hd
  obtain ⟨c, hc, rfl⟩ := List.mem_map.1 hd
  exact digit_lt (h c hc)

theorem eq_of_map_digit (hds : Digits ds) (hes : Digits es) (h : ds.map digit = es.map digit) :
    ds = es := by
  induction ds generalizing es with
  | nil => exact (List.map_eq_nil_iff.1 h.symm).symm
  | cons c ds ih =>
    obtain ⟨d, es, rfl, hd, htail⟩ := List.map_eq_cons_iff.1 h.symm
    obtain ⟨hc, hds⟩ := List.forall_mem_cons.1 hds
    obtain ⟨hd', hes⟩ := List.forall_mem_cons.1 hes
    rw [digit_inj hc hd' hd.symm, ih hds hes htail.symm]

/-! ## Values -/

theorem value_eq_radix (ds : List Char) : value ds = Radix.value 10 (ds.map digit) := by
  rw [value, Nat.ofDigitChars_eq_foldl, Radix.value, List.foldl_map]
  rfl

theorem value_eq_ofDigits (ds : List Char) :
    value ds = Nat.ofDigits 10 (ds.map digit).reverse := by
  rw [value_eq_radix, Radix.value_eq_ofDigits]

theorem value_toDigits (n : Nat) : value (Nat.toDigits 10 n) = n := Nat.ofDigitChars_ten_toDigits

theorem value_append (ds es : List Char) :
    value (ds ++ es) = value ds * 10 ^ es.length + value es := by
  rw [value_eq_radix, List.map_append, Radix.value_append, ← value_eq_radix, ← value_eq_radix,
    List.length_map]

theorem value_replicate (k : Nat) : value (List.replicate k '0') = 0 := by
  rw [value, Nat.ofDigitChars_replicate_zero, Nat.mul_zero]

theorem value_lt (h : Digits ds) : value ds < 10 ^ ds.length := by
  rw [value_eq_radix, ← List.length_map digit]
  exact Radix.value_lt (by decide) h.map_lt

/-- The digits in front of others are the quotient, the others the remainder. -/
theorem value_div_mod (ds : List Char) (hes : Digits es) :
    value (ds ++ es) / 10 ^ es.length = value ds ∧ value (ds ++ es) % 10 ^ es.length = value es := by
  have small := value_lt hes
  rw [value_append, Nat.add_comm]
  constructor
  · rw [Nat.add_mul_div_right _ _ (by positivity), Nat.div_eq_of_lt small, Nat.zero_add]
  · rw [Nat.add_mul_mod_self_right, Nat.mod_eq_of_lt small]

/-- A cut in front of the last `k` digits divides by `10 ^ k`. -/
theorem value_take_drop (h : Digits ds) {k : Nat} (hk : k ≤ ds.length) :
    value (ds.take (ds.length - k)) = value ds / 10 ^ k ∧
      value (ds.drop (ds.length - k)) = value ds % 10 ^ k := by
  have length : (ds.drop (ds.length - k)).length = k := by
    rw [List.length_drop]
    omega
  have parts := value_div_mod (ds.take (ds.length - k))
    (h.of_sublist (List.drop_sublist (ds.length - k) ds))
  rw [List.take_append_drop, length] at parts
  exact ⟨parts.1.symm, parts.2.symm⟩

/-- Digits of one length differ in value. -/
theorem eq_of_value_eq (hds : Digits ds) (hes : Digits es) (length : ds.length = es.length)
    (h : value ds = value es) : ds = es := by
  refine eq_of_map_digit hds hes (Radix.eq_of_value_eq (by decide) hds.map_lt hes.map_lt ?_ ?_)
  · rw [List.length_map, List.length_map, length]
  · rw [← value_eq_radix, ← value_eq_radix, h]

/-- A digit is one byte. -/
theorem utf8ByteSize_ofList (h : Digits ds) : (String.ofList ds).utf8ByteSize = ds.length := by
  induction ds with
  | nil => rfl
  | cons c ds ih =>
    obtain ⟨hc, hds⟩ := List.forall_mem_cons.1 h
    have one : c.utf8Size = 1 := by
      rw [Char.utf8Size_eq_one_iff, UInt32.le_iff_toNat_le]
      exact (toNat_of_isDigit hc).2.trans (by decide)
    rw [String.ofList_cons, String.utf8ByteSize_append, String.utf8ByteSize_singleton, one, ih hds,
      List.length_cons, Nat.add_comm]

/-! ## Numerals -/

/-- Digits, of which the first is no zero unless it is the only one. -/
structure Numeral (ds : List Char) : Prop where
  digits : Digits ds
  nonempty : ds ≠ []
  leading : ∀ rest, ds = '0' :: rest → rest = []

theorem numeral_zero : Numeral ['0'] where
  digits := digits_replicate 1
  nonempty := List.cons_ne_nil _ _
  leading := by
    intro rest h
    exact (List.cons.inj h).2.symm

theorem numeral_toDigits (n : Nat) : Numeral (Nat.toDigits 10 n) where
  digits := digits_toDigits n
  nonempty := Nat.toDigits_ne_nil
  leading := by
    intro rest h
    obtain ⟨d, ds, hds, hd, hzero⟩ := Json.Token.toDigits_head n
    rw [hds] at h
    obtain ⟨hchar, rfl⟩ := List.cons.inj h
    refine hzero ?_
    have value := Json.Token.value_digitChar hd
    rw [hchar] at value
    exact value.symm

theorem Numeral.take (h : Numeral ds) {k : Nat} (hk : 0 < k) : Numeral (ds.take k) where
  digits := h.digits.of_sublist (List.take_sublist k ds)
  nonempty := by
    rw [Ne, List.take_eq_nil_iff]
    rintro (rfl | hnil)
    · exact Nat.lt_irrefl 0 hk
    · exact h.nonempty hnil
  leading := by
    intro rest hrest
    obtain ⟨k, rfl⟩ := Nat.exists_eq_succ_of_ne_zero hk.ne'
    cases ds with
    | nil => cases hrest
    | cons c ds =>
      rw [List.take_succ_cons] at hrest
      obtain ⟨rfl, rfl⟩ := List.cons.inj hrest
      rw [h.leading ds rfl, List.take_nil]

/-- A numeral is a zero, or what its value is written as. -/
theorem Numeral.cases (h : Numeral ds) :
    ds = ['0'] ∨ Radix.digits 10 (value ds) = ds.map digit := by
  by_cases hzero : ds.head? = some '0'
  · obtain ⟨rest, hrest⟩ := List.head?_eq_some_iff.1 hzero
    rw [hrest, h.leading rest hrest]
    exact .inl rfl
  · right
    rw [value_eq_radix]
    refine Radix.digits_value (by decide) h.digits.map_lt fun hhead => ?_
    rw [List.head?_map] at hhead
    obtain ⟨c, hc, hdigit⟩ := Option.map_eq_some_iff.1 hhead
    rw [eq_zero_of_digit (h.digits c (List.mem_of_head? hc)) hdigit] at hc
    exact hzero hc

/-- Numerals differ in value. -/
theorem Numeral.eq_of_value_eq (hds : Numeral ds) (hes : Numeral es) (h : value ds = value es) :
    ds = es := by
  have ne_zero {ds : List Char} (hds : Numeral ds) (h : value ds = 0)
      (hmap : Radix.digits 10 (value ds) = ds.map digit) : False := by
    rw [h, Radix.digits_zero] at hmap
    exact hds.nonempty (List.map_eq_nil_iff.1 hmap.symm)
  rcases hds.cases with rfl | hmap
  · rcases hes.cases with rfl | hmap'
    · rfl
    · exact (ne_zero hes h.symm hmap').elim
  · rcases hes.cases with rfl | hmap'
    · exact (ne_zero hds h hmap).elim
    · rw [h] at hmap
      exact eq_of_map_digit hds.digits hes.digits (hmap.symm.trans hmap')

end SigningPreview.Decimal
