import Mathlib.Data.Nat.Digits.Lemmas
import SigningPreview.Radix

/-! # Numerals and the digits of the library

A numeral begins with its most significant digit, `Nat.digits` with the least. Up to that order
`Radix.digits` and `Radix.value` are `Nat.digits` and `Nat.ofDigits`, and what is known of these
carries over. -/
namespace SigningPreview.Radix

variable {base : Nat}

theorem lowFirst_eq_digits (h : 2 ≤ base) (n : Nat) : lowFirst base n = Nat.digits base n := by
  induction n using Nat.strongRecOn with
  | ind n ih =>
    rw [lowFirst]
    split
    · next hn => rw [ih _ (Nat.div_lt_self hn.2 hn.1), Nat.digits_def' hn.1 hn.2]
    · next hn =>
      have zero : n = 0 := by omega
      rw [zero, Nat.digits_zero]

theorem value_eq_ofDigits (ds : List Nat) : value base ds = Nat.ofDigits base ds.reverse := by
  rw [value, List.foldl_eq_foldr_reverse, Nat.ofDigits_eq_foldr]
  simp only [Nat.cast_id, Nat.add_comm]

theorem length_digits_le_iff (h : 2 ≤ base) {n k : Nat} :
    (digits base n).length ≤ k ↔ n < base ^ k := by
  rw [digits, List.length_reverse, lowFirst_eq_digits h, Nat.digits_length_le_iff h]

theorem value_lt (h : 2 ≤ base) {ds : List Nat} (hds : ∀ d ∈ ds, d < base) :
    value base ds < base ^ ds.length := by
  rw [value_eq_ofDigits, ← List.length_reverse]
  exact Nat.ofDigits_lt_base_pow_length h fun d hd => hds d (List.mem_reverse.1 hd)

theorem value_append (ds es : List Nat) :
    value base (ds ++ es) = value base ds * base ^ es.length + value base es := by
  rw [value_eq_ofDigits, List.reverse_append, Nat.ofDigits_append, List.length_reverse,
    ← value_eq_ofDigits, ← value_eq_ofDigits, Nat.add_comm, Nat.mul_comm]

/-- Leading zeros do not count. -/
theorem value_replicate_append (k : Nat) (ds : List Nat) :
    value base (List.replicate k 0 ++ ds) = value base ds := by
  rw [value_eq_ofDigits, value_eq_ofDigits, List.reverse_append, List.reverse_replicate,
    Nat.ofDigits_append_replicate_zero]

/-- A numeral is some zeros and a numeral that begins with none. -/
theorem exists_leading_zeros (ds : List Nat) :
    ∃ zeros rest, ds = List.replicate zeros 0 ++ rest ∧ rest.head? ≠ some 0 := by
  induction ds with
  | nil => exact ⟨0, [], rfl, by simp⟩
  | cons d ds ih =>
    by_cases hd : d = 0
    · obtain ⟨zeros, rest, rfl, head⟩ := ih
      exact ⟨zeros + 1, rest, by rw [hd]; rfl, head⟩
    · exact ⟨0, d :: ds, rfl, by simpa using hd⟩

/-! ## Numerals of a number -/

theorem digits_zero (base : Nat) : digits base 0 = [] := by
  simp [digits, lowFirst]

theorem value_digits (h : 2 ≤ base) (n : Nat) : value base (digits base n) = n := by
  rw [value_eq_ofDigits, digits, List.reverse_reverse, lowFirst_eq_digits h, Nat.ofDigits_digits]

theorem digits_lt (h : 2 ≤ base) {n : Nat} : ∀ d ∈ digits base n, d < base := by
  intro d hd
  rw [digits, List.mem_reverse, lowFirst_eq_digits h] at hd
  exact Nat.digits_lt_base h hd

/-- The numeral of a number has no leading zero. -/
theorem digits_head (h : 2 ≤ base) (n : Nat) : (digits base n).head? ≠ some 0 := by
  rw [digits, List.head?_reverse, lowFirst_eq_digits h]
  intro hlast
  have hne : n ≠ 0 := by
    rintro rfl
    rw [Nat.digits_zero] at hlast
    cases hlast
  have nonempty : Nat.digits base n ≠ [] := Nat.digits_ne_nil_iff_ne_zero.2 hne
  rw [List.getLast?_eq_some_getLast nonempty] at hlast
  exact Nat.getLast_digit_ne_zero base hne (Option.some.inj hlast)

/-- A numeral without leading zeros is the numeral of its value. -/
theorem digits_value (h : 2 ≤ base) {ds : List Nat} (hds : ∀ d ∈ ds, d < base)
    (head : ds.head? ≠ some 0) : digits base (value base ds) = ds := by
  have small : ∀ d ∈ ds.reverse, d < base := fun d hd => hds d (List.mem_reverse.1 hd)
  have last (hne : ds.reverse ≠ []) : ds.reverse.getLast hne ≠ 0 := by
    intro hzero
    rw [List.getLast_reverse] at hzero
    refine head ?_
    rw [List.head?_eq_some_head (List.reverse_ne_nil_iff.1 hne), hzero]
  rw [value_eq_ofDigits, digits, lowFirst_eq_digits h, Nat.digits_ofDigits base h _ small last,
    List.reverse_reverse]

/-- The numeral that the library writes has the number as its value. -/
theorem exists_toDigits (h : 2 ≤ base) (n : Nat) :
    ∃ ds, Nat.toDigits base n = ds.map Nat.digitChar ∧ (∀ d ∈ ds, d < base) ∧ value base ds = n := by
  induction n using Nat.strongRecOn with
  | ind n ih =>
    by_cases small : n < base
    · exact ⟨[n], Nat.toDigits_of_lt_base small, by simpa using small, by simp [value]⟩
    · have large : base ≤ n := Nat.le_of_not_lt small
      obtain ⟨ds, hds, bound, hvalue⟩ := ih (n / base) (Nat.div_lt_self (by omega) h)
      have last : n % base < base := Nat.mod_lt n (by omega)
      refine ⟨ds ++ [n % base], ?_, ?_, ?_⟩
      · rw [Nat.toDigits_of_base_le h large, hds, List.map_append]
        rfl
      · exact List.forall_mem_append.2 ⟨bound, by simpa using last⟩
      · have single : value base [n % base] = n % base := by simp [value]
        rw [value_append, hvalue, single, List.length_singleton, pow_one, Nat.div_add_mod']

/-- Numerals of one length differ in value. -/
theorem eq_of_value_eq (h : 2 ≤ base) {ds es : List Nat} (hds : ∀ d ∈ ds, d < base)
    (hes : ∀ d ∈ es, d < base) (length : ds.length = es.length)
    (hvalue : value base ds = value base es) : ds = es := by
  rw [value_eq_ofDigits, value_eq_ofDigits] at hvalue
  refine List.reverse_injective (Nat.ofDigits_inj_of_len_eq h ?_ ?_ ?_ hvalue)
  · rw [List.length_reverse, List.length_reverse, length]
  · exact fun d hd => hds d (List.mem_reverse.1 hd)
  · exact fun d hd => hes d (List.mem_reverse.1 hd)

end SigningPreview.Radix
