import Mathlib.Algebra.Order.Field.Basic
import Mathlib.Algebra.Order.Field.Rat
import Mathlib.Data.List.DropRight
import Mathlib.Data.List.TakeWhile
import Mathlib.Tactic.FieldSimp
import Mathlib.Tactic.Linarith
import Mathlib.Tactic.Positivity
import SigningPreview.Label.Quantity
import SigningPreview.Proofs.Decimal

/-! # Quantities are cut off and never rounded

A label is written from the digits of a number, by cutting and trimming them. What its numeral
denotes is said here without digits: `n * 10 ^ 6 / 10 ^ decimals` millionths, with the division of
natural numbers. First numerals with a point are read as rational numbers, and the canonical ones
seen to be one for each number (`Canonical.eq_of_decimalValue_eq`). Then the digits before the
point, and those behind it that are shown, are quotients of the whole (`value_whole`,
`value_shownPlaces`). -/
namespace SigningPreview.Label

open Decimal

/-! ## Numerals with a point -/

/-- What stands before the point. -/
def wholePart (cs : List Char) : List Char := cs.takeWhile (· ≠ '.')

/-- What stands behind the point, if there is one. -/
def fractionPart (cs : List Char) : List Char := (cs.dropWhile (· ≠ '.')).drop 1

/-- The number that places behind a point denote. -/
def fractionValue (ds : List Char) : ℚ := value ds / 10 ^ ds.length

/-- The number that a numeral denotes. -/
def decimalValue (cs : List Char) : ℚ :=
  value (wholePart cs) + fractionValue (fractionPart cs)

/-- A numeral with no digit too many: no leading zeros, at most six places and no zero at their end,
and a point only if there are places. -/
structure Canonical (cs : List Char) : Prop where
  whole : Numeral (wholePart cs)
  fraction : Digits (fractionPart cs)
  places : (fractionPart cs).length ≤ 6
  trailing : (fractionPart cs).getLast? ≠ some '0'
  point : '.' ∈ cs → fractionPart cs ≠ []

/-- Digits before the point and digits behind it, without the point if there are none. -/
def joined (whole fraction : List Char) : List Char :=
  if fraction = [] then whole else whole ++ '.' :: fraction

theorem point_not_mem {ds : List Char} (h : Digits ds) : '.' ∉ ds :=
  fun hmem => absurd (h '.' hmem) (by decide)

theorem parts_joined {ds : List Char} (h : Digits ds) (es : List Char) :
    wholePart (joined ds es) = ds ∧ fractionPart (joined ds es) = es := by
  have plain : ∀ c ∈ ds, decide (c ≠ '.') = true := fun c hc =>
    decide_eq_true fun hpoint => point_not_mem h (hpoint ▸ hc)
  unfold wholePart fractionPart joined
  split
  · next hes =>
    rw [hes, List.takeWhile_eq_self_iff.2 plain, List.dropWhile_eq_nil_iff.2 plain]
    exact ⟨rfl, rfl⟩
  · rw [List.takeWhile_append_of_pos plain, List.dropWhile_append_of_pos plain]
    simp

theorem Canonical.joined_parts {cs : List Char} (h : Canonical cs) :
    joined (wholePart cs) (fractionPart cs) = cs := by
  have parts : wholePart cs ++ cs.dropWhile (· ≠ '.') = cs := List.takeWhile_append_dropWhile
  unfold joined
  cases hrest : cs.dropWhile (· ≠ '.') with
  | nil =>
    rw [hrest, List.append_nil] at parts
    rw [if_pos (by rw [fractionPart, hrest]; rfl), parts]
  | cons c rest =>
    have hc : c = '.' := by
      have stop := List.head?_dropWhile_not (fun c => decide (c ≠ '.')) cs
      rw [hrest] at stop
      simpa using stop
    have hfraction : fractionPart cs = rest := by rw [fractionPart, hrest]; rfl
    have hmem : '.' ∈ cs := by
      rw [← parts, hrest, hc]
      simp
    rw [if_neg (h.point hmem), hfraction, ← hc, ← hrest, parts]

/-! ## Final zeros -/

theorem dropFinalZeros_eq (ds : List Char) :
    dropFinalZeros ds = ds.rdropWhile fun c => decide (c = '0') := rfl

theorem dropFinalZeros_eq_self_iff {ds : List Char} :
    dropFinalZeros ds = ds ↔ ds.getLast? ≠ some '0' := by
  rw [dropFinalZeros_eq, List.rdropWhile_eq_self_iff]
  constructor
  · intro h hlast
    have hne : ds ≠ [] := by
      rintro rfl
      cases hlast
    rw [List.getLast?_eq_some_getLast hne] at hlast
    exact h hne (decide_eq_true (Option.some.inj hlast))
  · intro h hne hlast
    rw [List.getLast?_eq_some_getLast hne, of_decide_eq_true hlast] at h
    exact h rfl

theorem getLast?_dropFinalZeros (ds : List Char) : (dropFinalZeros ds).getLast? ≠ some '0' :=
  dropFinalZeros_eq_self_iff.1 (List.rdropWhile_idempotent _ ds)

theorem dropFinalZeros_append_replicate (ds : List Char) (k : Nat) :
    dropFinalZeros (ds ++ List.replicate k '0') = dropFinalZeros ds := by
  induction k with
  | zero => rw [List.replicate_zero, List.append_nil]
  | succ k ih =>
    rw [List.replicate_succ', ← List.append_assoc, dropFinalZeros_eq,
      List.rdropWhile_concat_pos _ _ _ (by decide), ← dropFinalZeros_eq, ih]

theorem exists_dropFinalZeros (ds : List Char) :
    ∃ k, ds = dropFinalZeros ds ++ List.replicate k '0' := by
  have zero : ∀ c ∈ ds.rtakeWhile fun c => decide (c = '0'), c = '0' := by
    intro c hc
    have hzero := List.mem_rtakeWhile_imp hc
    exact of_decide_eq_true hzero
  refine ⟨(ds.rtakeWhile fun c => decide (c = '0')).length, ?_⟩
  rw [← List.eq_replicate_of_mem zero, dropFinalZeros_eq, List.rdropWhile_append_rtakeWhile]

/-! ## Fractions -/

theorem fractionValue_append_replicate (ds : List Char) (k : Nat) :
    fractionValue (ds ++ List.replicate k '0') = fractionValue ds := by
  unfold fractionValue
  rw [value_append, value_replicate, List.length_append, List.length_replicate]
  push_cast
  rw [pow_add, add_zero]
  field_simp

theorem fractionValue_nonneg (ds : List Char) : 0 ≤ fractionValue ds := by
  unfold fractionValue
  positivity

theorem fractionValue_lt_one {ds : List Char} (h : Digits ds) : fractionValue ds < 1 := by
  unfold fractionValue
  rw [div_lt_one (by positivity)]
  exact_mod_cast value_lt h

theorem fractionValue_dropFinalZeros (ds : List Char) :
    fractionValue (dropFinalZeros ds) = fractionValue ds := by
  obtain ⟨k, hk⟩ := exists_dropFinalZeros ds
  conv => rhs; rw [hk, fractionValue_append_replicate]

/-- Places without final zeros differ in value: with zeros to the same length they are numerals of
one value. -/
theorem eq_of_fractionValue_eq {ds es : List Char} (hds : Digits ds) (hes : Digits es)
    (hds' : ds.getLast? ≠ some '0') (hes' : es.getLast? ≠ some '0')
    (h : fractionValue ds = fractionValue es) : ds = es := by
  have padded : ds ++ List.replicate es.length '0' = es ++ List.replicate ds.length '0' := by
    refine eq_of_value_eq (hds.append (digits_replicate _)) (hes.append (digits_replicate _)) ?_ ?_
    · simp [Nat.add_comm]
    · unfold fractionValue at h
      rw [div_eq_div_iff (by positivity) (by positivity)] at h
      rw [value_append, value_append, value_replicate, value_replicate, List.length_replicate,
        List.length_replicate]
      rw [Nat.add_zero, Nat.add_zero]
      exact_mod_cast h
  have trimmed := congrArg dropFinalZeros padded
  rwa [dropFinalZeros_append_replicate, dropFinalZeros_append_replicate,
    dropFinalZeros_eq_self_iff.2 hds', dropFinalZeros_eq_self_iff.2 hes'] at trimmed

/-- A natural number and a proper fraction are told apart in their sum. -/
theorem eq_of_add_fractionValue_eq {m n : Nat} {ds es : List Char} (hds : Digits ds)
    (hes : Digits es) (h : (m : ℚ) + fractionValue ds = n + fractionValue es) :
    m = n ∧ fractionValue ds = fractionValue es := by
  have lowDs := fractionValue_nonneg ds
  have lowEs := fractionValue_nonneg es
  have highDs := fractionValue_lt_one hds
  have highEs := fractionValue_lt_one hes
  have below : (m : ℚ) < n + 1 := by linarith
  have above : (n : ℚ) < m + 1 := by linarith
  have hmn : m = n := by
    have := Nat.lt_succ_iff.1 (by exact_mod_cast below)
    have := Nat.lt_succ_iff.1 (by exact_mod_cast above)
    omega
  subst hmn
  exact ⟨rfl, by linarith⟩

/-- A number has one canonical numeral at most. -/
theorem Canonical.eq_of_decimalValue_eq {cs ds : List Char} (hcs : Canonical cs)
    (hds : Canonical ds) (h : decimalValue cs = decimalValue ds) : cs = ds := by
  obtain ⟨hwhole, hfraction⟩ := eq_of_add_fractionValue_eq hcs.fraction hds.fraction h
  have wholes := hcs.whole.eq_of_value_eq hds.whole hwhole
  have fractions :=
    eq_of_fractionValue_eq hcs.fraction hds.fraction hcs.trailing hds.trailing hfraction
  rw [← hcs.joined_parts, ← hds.joined_parts, wholes, fractions]

/-! ## The digits of a quantity -/

variable {decimals : Nat} {ds : List Char}

/-- The digits before the point denote the quotient. -/
theorem value_whole (h : Digits ds) : value (whole decimals ds) = value ds / 10 ^ decimals := by
  unfold whole
  split
  · next hle =>
    have small : value ds < 10 ^ decimals :=
      (value_lt h).trans_le (Nat.pow_le_pow_right (by decide) hle)
    rw [Nat.div_eq_of_lt small]
    rfl
  · next hlt => exact (value_take_drop h (Nat.le_of_not_le hlt)).1

theorem numeral_whole (h : Numeral ds) : Numeral (whole decimals ds) := by
  unfold whole
  split
  · exact numeral_zero
  · next hlt => exact h.take (by omega)

/-- All places behind the point, with zeros for those that a number is too short to have. -/
def allPlaces (decimals : Nat) (ds : List Char) : List Char :=
  List.replicate (decimals - ds.length) '0' ++ ds.drop (ds.length - decimals)

theorem digits_allPlaces (h : Digits ds) : Digits (allPlaces decimals ds) :=
  (digits_replicate _).append (h.of_sublist (List.drop_sublist _ _))

theorem length_allPlaces (decimals : Nat) (ds : List Char) :
    (allPlaces decimals ds).length = decimals := by
  rw [allPlaces, List.length_append, List.length_replicate, List.length_drop]
  omega

/-- The places denote the remainder. -/
theorem value_allPlaces (h : Digits ds) :
    value (allPlaces decimals ds) = value ds % 10 ^ decimals := by
  rw [allPlaces, value_append, value_replicate, Nat.zero_mul, Nat.zero_add]
  rcases Nat.le_total decimals ds.length with hle | hle
  · exact (value_take_drop h hle).2
  · have small : value ds < 10 ^ decimals :=
      (value_lt h).trans_le (Nat.pow_le_pow_right (by decide) hle)
    rw [Nat.sub_eq_zero_of_le hle, List.drop_zero, Nat.mod_eq_of_lt small]

/-- Zeros that cannot be shown need not be written. -/
theorem places_eq (decimals : Nat) (ds : List Char) :
    places decimals ds = dropFinalZeros ((allPlaces decimals ds).take precision) := by
  have enough : min precision (min precision (decimals - ds.length)) =
      min precision (decimals - ds.length) := by omega
  have behind : precision - min precision (decimals - ds.length) =
      precision - (decimals - ds.length) := by omega
  rw [places, allPlaces, List.take_append, List.take_append, List.take_replicate,
    List.take_replicate, List.length_replicate, List.length_replicate, enough, behind]

/-- The first six places denote the remainder, without those of its digits that come later. -/
theorem value_shownPlaces (h : Digits ds) :
    value ((allPlaces decimals ds).take precision) =
      value ds % 10 ^ decimals / 10 ^ (decimals - precision) := by
  have first : (allPlaces decimals ds).take precision =
      (allPlaces decimals ds).take ((allPlaces decimals ds).length - (decimals - precision)) := by
    rw [List.take_eq_take_iff, length_allPlaces]
    omega
  rw [first, ← value_allPlaces h]
  refine (value_take_drop (digits_allPlaces h) ?_).1
  rw [length_allPlaces]
  omega

theorem length_shownPlaces (decimals : Nat) (ds : List Char) :
    ((allPlaces decimals ds).take precision).length = min precision decimals := by
  rw [List.length_take, length_allPlaces]

theorem numeral_eq_joined (n decimals : Nat) :
    numeral n decimals =
      joined (whole decimals (Nat.toDigits 10 n)) (places decimals (Nat.toDigits 10 n)) := by
  unfold numeral joined
  dsimp only
  split
  · next h => rw [if_pos h]
  · next h => rw [if_neg h]

theorem parts_numeral (n decimals : Nat) :
    wholePart (numeral n decimals) = whole decimals (Nat.toDigits 10 n) ∧
      fractionPart (numeral n decimals) = places decimals (Nat.toDigits 10 n) := by
  rw [numeral_eq_joined]
  exact parts_joined (numeral_whole (numeral_toDigits n)).digits _

theorem canonical_numeral (n decimals : Nat) : Canonical (numeral n decimals) := by
  obtain ⟨hwhole, hfraction⟩ := parts_numeral n decimals
  have shown : places decimals (Nat.toDigits 10 n) =
      dropFinalZeros ((allPlaces decimals (Nat.toDigits 10 n)).take precision) := places_eq _ _
  obtain ⟨k, hk⟩ := exists_dropFinalZeros ((allPlaces decimals (Nat.toDigits 10 n)).take precision)
  have part : (places decimals (Nat.toDigits 10 n)).Sublist
      ((allPlaces decimals (Nat.toDigits 10 n)).take precision) := by
    rw [shown]
    conv => rhs; rw [hk]
    exact List.sublist_append_left ..
  constructor
  case whole =>
    rw [hwhole]
    exact numeral_whole (numeral_toDigits n)
  case fraction =>
    rw [hfraction]
    exact (digits_allPlaces (digits_toDigits n)).of_sublist (part.trans (List.take_sublist ..))
  case places =>
    rw [hfraction]
    exact part.length_le.trans (List.length_take_le ..)
  case trailing =>
    rw [hfraction, shown]
    exact getLast?_dropFinalZeros _
  case point =>
    intro hpoint hnil
    rw [hfraction] at hnil
    rw [numeral_eq_joined, joined, if_pos hnil] at hpoint
    exact point_not_mem (numeral_whole (numeral_toDigits n)).digits hpoint

/-- A quantity begins with a digit, whatever its symbol. -/
theorem quantity_begins (n decimals : Nat) (symbol : String) :
    ∃ d ∈ (quantity n decimals symbol).toList.head?, d.isDigit = true := by
  have canonical : Numeral (whole decimals (Nat.toDigits 10 n)) :=
    numeral_whole (numeral_toDigits n)
  obtain ⟨d, ds, hwhole⟩ := List.exists_cons_of_ne_nil canonical.nonempty
  refine ⟨d, ?_, canonical.digits d (by simp [hwhole])⟩
  rw [quantity, withSymbol, numeral_eq_joined, hwhole, joined, String.toList_append,
    String.toList_ofList]
  split <;> simp

/-! ## The number of a quantity -/

theorem pow_split (decimals : Nat) :
    10 ^ decimals = 10 ^ (decimals - precision) * 10 ^ min precision decimals := by
  rw [← pow_add]
  congr 1
  omega

/-- Quotient and first places together are the quotient by the power of ten of the other places. -/
theorem quotient_and_places (n decimals : Nat) :
    n / 10 ^ decimals * 10 ^ min precision decimals
      + n % 10 ^ decimals / 10 ^ (decimals - precision) = n / 10 ^ (decimals - precision) := by
  rw [pow_split decimals, Nat.mod_mul_right_div_self, ← Nat.div_div_eq_div_mul, Nat.mul_comm]
  exact Nat.div_add_mod _ _

theorem millionths_eq (n decimals : Nat) :
    n * 10 ^ 6 / 10 ^ decimals * 10 ^ min precision decimals =
      n / 10 ^ (decimals - precision) * 10 ^ 6 := by
  rcases Nat.le_total decimals 6 with hle | hle
  · have hmin : min precision decimals = decimals := Nat.min_eq_right hle
    have hsub : decimals - precision = 0 := Nat.sub_eq_zero_of_le hle
    rw [hmin, hsub, pow_zero, Nat.div_one]
    exact Nat.div_mul_cancel ((pow_dvd_pow 10 hle).mul_left n)
  · have hmin : min precision decimals = 6 := Nat.min_eq_left hle
    rw [pow_split decimals, hmin, Nat.mul_div_mul_right _ _ (by positivity)]

theorem decimalValue_numeral (n decimals : Nat) :
    decimalValue (numeral n decimals) = ((n * 10 ^ 6 / 10 ^ decimals : ℕ) : ℚ) / 10 ^ 6 := by
  obtain ⟨hwhole, hfraction⟩ := parts_numeral n decimals
  have hdigits := digits_toDigits n
  have shown : fractionValue (places decimals (Nat.toDigits 10 n)) =
      (n % 10 ^ decimals / 10 ^ (decimals - precision) : ℕ) / 10 ^ min precision decimals := by
    rw [places_eq, fractionValue_dropFinalZeros, fractionValue, value_shownPlaces hdigits,
      length_shownPlaces, value_toDigits]
  have sum : ((n / 10 ^ decimals : ℕ) : ℚ)
      + (n % 10 ^ decimals / 10 ^ (decimals - precision) : ℕ) / 10 ^ min precision decimals =
      (n / 10 ^ (decimals - precision) : ℕ) / 10 ^ min precision decimals := by
    rw [← quotient_and_places n decimals]
    push_cast
    field_simp
  rw [decimalValue, hwhole, hfraction, value_whole hdigits, value_toDigits, shown, sum,
    div_eq_div_iff (by positivity) (by positivity)]
  exact_mod_cast (millionths_eq n decimals).symm

/-- A number may be cut within its digits, wherever the cut falls. -/
theorem isValid_cut (n k : Nat) : String.Pos.Raw.IsValid n.repr ⟨n.repr.utf8ByteSize - k⟩ := by
  have size := utf8ByteSize_ofList (digits_toDigits n)
  rw [Nat.repr_eq_ofList_toDigits, String.Pos.Raw.isValid_ofList]
  refine ⟨(Nat.toDigits 10 n).length - k, ?_⟩
  rw [utf8ByteSize_ofList ((digits_toDigits n).of_sublist (List.take_sublist ..)), size,
    List.length_take]
  exact (Nat.min_eq_left (Nat.sub_le ..)).symm

/-- What is shown of `n` smallest units of an asset, whatever its symbol: `shown` is the number of
whole units, cut off after six places. -/
structure Shows (n decimals : Nat) (shown : List Char) : Prop where
  label : ∀ symbol, quantity n decimals symbol =
    String.ofList shown ++ if symbol = "" then "" else " " ++ symbol
  canonical : Canonical shown
  value : decimalValue shown = ((n * 10 ^ 6 / 10 ^ decimals : ℕ) : ℚ) / 10 ^ 6
  /-- There is no other numeral for it. -/
  unique : ∀ cs, Canonical cs →
    decimalValue cs = ((n * 10 ^ 6 / 10 ^ decimals : ℕ) : ℚ) / 10 ^ 6 → cs = shown
  atMost : decimalValue shown ≤ n / 10 ^ decimals
  lossless : decimals ≤ 6 ∨ 10 ^ (decimals - 6) ∣ n → decimalValue shown = n / 10 ^ decimals
  monotone : ∀ m, n ≤ m → decimalValue shown ≤ decimalValue (numeral m decimals)
  /-- The digits are cut within their bounds, and between two of them. -/
  cut : String.Pos.Raw.IsValid n.repr ⟨n.repr.utf8ByteSize - decimals⟩

theorem quantity_shows (n decimals : Nat) : Shows n decimals (numeral n decimals) := by
  have value := decimalValue_numeral n decimals
  constructor
  case label =>
    intro symbol
    rfl
  case canonical => exact canonical_numeral n decimals
  case value => exact value
  case unique =>
    intro cs hcs hvalue
    exact hcs.eq_of_decimalValue_eq (canonical_numeral n decimals) (hvalue.trans value.symm)
  case atMost =>
    rw [value, div_le_div_iff₀ (by positivity) (by positivity)]
    exact_mod_cast Nat.div_mul_le_self (n * 10 ^ 6) (10 ^ decimals)
  case lossless =>
    intro h
    have whole : 10 ^ decimals ∣ n * 10 ^ 6 := by
      rcases h with hle | hdvd
      · exact (pow_dvd_pow 10 hle).mul_left n
      · rw [pow_split decimals]
        exact Nat.mul_dvd_mul hdvd (pow_dvd_pow 10 (Nat.min_le_left 6 decimals))
    rw [value, div_eq_div_iff (by positivity) (by positivity)]
    exact_mod_cast Nat.div_mul_cancel whole
  case monotone =>
    intro m hm
    rw [value, decimalValue_numeral m decimals]
    have below : n * 10 ^ 6 / 10 ^ decimals ≤ m * 10 ^ 6 / 10 ^ decimals :=
      Nat.div_le_div_right (Nat.mul_le_mul_right _ hm)
    exact div_le_div_of_nonneg_right (by exact_mod_cast below) (by positivity)
  case cut => exact isValid_cut n decimals

example : quantity 1999999999 9 "SOL" = "1.999999 SOL" := by decide +kernel

end SigningPreview.Label
