import SigningPreview.Evm.Address
import SigningPreview.Proofs.Lists
import SigningPreview.Proofs.Radix
import SigningPreview.Proofs.Text.Utf8
import SigningPreview.Solana.Address

/-! # How long the text of an address is

Addresses are read byte by byte, and every byte that is read as a digit is ASCII, so an address has
as many characters as bytes. From the number of bytes that it denotes follows how long its text is:
forty-two characters for an EVM address, at least thirty-two for a Solana address. -/
namespace SigningPreview

/-! ## EVM addresses -/

namespace Evm

theorem Nibble.ascii_of_ofDigit? {b : UInt8} {n : Nibble} (h : Nibble.ofDigit? b = some n) :
    b.toNat < 0x80 := by
  unfold ofDigit? at h
  split_ifs at h <;> omega

namespace Hex

theorem nibbles_ok {position : Nat} {bytes : List UInt8} {ns : List Nibble}
    (h : nibbles position bytes = .ok ns) :
    ns.length = bytes.length ∧ ∀ b ∈ bytes, b.toNat < 0x80 := by
  induction bytes generalizing position ns with
  | nil =>
    cases h
    exact ⟨rfl, by simp⟩
  | cons b bytes ih =>
    rw [nibbles] at h
    cases hb : Nibble.ofDigit? b with
    | none => rw [hb] at h; cases h
    | some n =>
      rw [hb] at h
      obtain ⟨rest, hns, rfl⟩ := exists_of_map_eq_ok h
      obtain ⟨hlength, hascii⟩ := ih hns
      refine ⟨?_, List.forall_mem_cons.2 ⟨Nibble.ascii_of_ofDigit? hb, hascii⟩⟩
      rw [List.length_cons, List.length_cons, hlength]

theorem length_pairUp (ns : List Nibble) : (pairUp ns).length = ns.length / 2 := by
  fun_induction pairUp ns with
  | case1 high low rest ih => rw [List.length_cons, ih]; simp only [List.length_cons]; omega
  | case2 ns hns =>
    rcases ns with _ | ⟨high, _ | ⟨low, rest⟩⟩
    · rfl
    · simp
    · exact absurd rfl (hns high low rest)

/-- Two digits make a byte. -/
theorem decode_ok {text bytes : List UInt8} (h : decode text = .ok bytes) :
    text.length = 2 * bytes.length ∧ ∀ b ∈ text, b.toNat < 0x80 := by
  unfold decode at h
  split_ifs at h with odd
  obtain ⟨ns, hns, rfl⟩ := exists_of_map_eq_ok h
  obtain ⟨hlength, hascii⟩ := nibbles_ok hns
  refine ⟨?_, hascii⟩
  rw [length_pairUp, hlength]
  omega

end Hex

namespace Address

theorem length_of_stripMarker? {cs rest : List Char} (h : stripMarker? cs = some rest) :
    cs.length = rest.length + 2 := by
  unfold stripMarker? at h
  split at h
  · cases h; rfl
  · cases h; rfl
  · cases h

/-- The marker and forty digits. -/
theorem length_of_ofText {text : String} {a : Address} (h : ofText text = .ok a) :
    text.toList.length = 42 := by
  unfold ofText at h
  split at h
  · cases h
  next rest hrest =>
  split at h
  · cases h
  next bytes hbytes =>
  split_ifs at h with hlength
  obtain ⟨htext, hascii⟩ := Hex.decode_ok hbytes
  rw [length_of_stripMarker? hrest, ← Text.length_utf8 hascii, htext, hlength]

end Address

end Evm

/-! ## Solana addresses -/

namespace Solana

namespace Base58

theorem length_alphabet : alphabet.length = 58 := by decide

theorem digitValue?_lt {b : UInt8} {n : Nat} (h : digitValue? b = some n) : n < 58 := by
  obtain ⟨hn, -⟩ := List.findIdx?_eq_some_iff_getElem.1 h
  exact hn.trans_eq length_alphabet

/-- A byte outside ASCII ends the reading. -/
theorem values_of_not_ascii {b : UInt8} (h : 0x80 ≤ b.toNat) (position : Nat) (text : List UInt8) :
    values position (b :: text) = .error (.notAscii position) :=
  if_pos h

theorem values_of_ascii {b : UInt8} (h : ¬ 0x80 ≤ b.toNat) (position : Nat) (text : List UInt8) :
    values position (b :: text) =
      match digitValue? b with
      | none => .error (.notInAlphabet b position)
      | some n => (values (position + 1) text).map (n :: ·) :=
  if_neg h

theorem values_ok {position : Nat} {text : List UInt8} {ds : List Nat}
    (h : values position text = .ok ds) :
    ds.length = text.length ∧ (∀ d ∈ ds, d < 58) ∧ ∀ b ∈ text, b.toNat < 0x80 := by
  induction text generalizing position ds with
  | nil =>
    cases h
    exact ⟨rfl, by simp, by simp⟩
  | cons b text ih =>
    by_cases hb : 0x80 ≤ b.toNat
    · rw [values_of_not_ascii hb] at h
      cases h
    · rw [values_of_ascii hb] at h
      cases hn : digitValue? b with
      | none => rw [hn] at h; cases h
      | some n =>
        rw [hn] at h
        obtain ⟨rest, hds, rfl⟩ := exists_of_map_eq_ok h
        obtain ⟨hlength, hdigits, hascii⟩ := ih hds
        refine ⟨?_, List.forall_mem_cons.2 ⟨digitValue?_lt hn, hdigits⟩,
          List.forall_mem_cons.2 ⟨Nat.lt_of_not_le hb, hascii⟩⟩
        rw [List.length_cons, List.length_cons, hlength]

section Rebase

variable {source target : Nat}

/-- The zeros at the front are kept, the rest is written anew. -/
theorem rebase_replicate_append (zeros : Nat) {ds : List Nat} (head : ds.head? ≠ some 0) :
    rebase source target (List.replicate zeros 0 ++ ds) =
      List.replicate zeros 0 ++ Radix.digits target (Radix.value source ds) := by
  have stop : ds.takeWhile (· = 0) = [] := by
    cases ds with
    | nil => rfl
    | cons d ds => exact List.takeWhile_cons_of_neg (by simpa using head)
  rw [rebase, Radix.value_replicate_append, List.takeWhile_append_of_pos (by simp), stop,
    List.append_nil, List.length_replicate]

/-- A numeral does not get longer in a greater base: its leading zeros stay, and the rest of it
needs no more digits than before. -/
theorem length_rebase_le (hsource : 2 ≤ source) (h : source ≤ target) {ds : List Nat}
    (hds : ∀ d ∈ ds, d < source) : (rebase source target ds).length ≤ ds.length := by
  obtain ⟨zeros, rest, rfl, head⟩ := Radix.exists_leading_zeros ds
  have bound : Radix.value source rest < target ^ rest.length :=
    calc Radix.value source rest
      _ < source ^ rest.length := Radix.value_lt hsource (List.forall_mem_append.1 hds).2
      _ ≤ target ^ rest.length := Nat.pow_le_pow_left h _
  have few := (Radix.length_digits_le_iff (hsource.trans h)).2 bound
  rw [rebase_replicate_append zeros head, List.length_append, List.length_append]
  exact Nat.add_le_add_left few _

end Rebase

theorem decode_ok {text bytes : List UInt8} (h : decode text = .ok bytes) :
    bytes.length ≤ text.length ∧ ∀ b ∈ text, b.toNat < 0x80 := by
  unfold decode at h
  obtain ⟨ds, hds, rfl⟩ := exists_of_map_eq_ok h
  obtain ⟨hlength, hdigits, hascii⟩ := values_ok hds
  refine ⟨?_, hascii⟩
  rw [List.length_map, ← hlength]
  exact length_rebase_le (by decide) (by decide) hdigits

end Base58

/-- Thirty-two bytes need at least as many digits. -/
theorem Address.length_of_ofText {text : String} {a : Address} (h : ofText text = .ok a) :
    32 ≤ text.toList.length := by
  unfold ofText at h
  split at h
  · cases h
  next bytes hbytes =>
  split_ifs at h with hlength
  obtain ⟨htext, hascii⟩ := Base58.decode_ok hbytes
  rw [← Text.length_utf8 hascii, ← hlength]
  exact htext

end Solana

end SigningPreview
