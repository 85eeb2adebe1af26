import Mathlib.Tactic.SplitIfs
import SigningPreview.Proofs.Decimal
import SigningPreview.Text.Utf8

/-! # Bytes of characters

An ASCII character is one byte, the one with its number. Any other character begins and ends with
bytes that are not ASCII, so a look at each byte tells ASCII digits as well as a look at each
character does (`digits_utf8_iff`). -/
namespace SigningPreview.Text

/-! ## ASCII -/

theorem utf8EncodeChar_ascii {c : Char} (h : c.toNat < 0x80) :
    String.utf8EncodeChar c = [UInt8.ofNat c.toNat] := by
  have small : c.val.toNat ≤ 127 := Nat.le_of_lt_succ h
  unfold String.utf8EncodeChar
  exact if_pos small

theorem toNat_ofNat_ascii {c : Char} (ascii : c.toNat < 0x80) :
    (UInt8.ofNat c.toNat).toNat = c.toNat :=
  UInt8.toNat_ofNat_of_lt' (ascii.trans (by decide))

/-! ## Other characters -/

/-- A character that is not ASCII begins with a byte that is not. -/
theorem utf8EncodeChar_not_ascii {c : Char} (h : ¬ c.toNat < 0x80) :
    ∃ b bs, String.utf8EncodeChar c = b :: bs ∧ 0x80 ≤ b.toNat := by
  have first {k m : Nat} (hk : 0x80 ≤ k) (hm : m + k < 256) :
      0x80 ≤ (UInt8.ofNat (m + k)).toNat := by
    rw [UInt8.toNat_ofNat_of_lt' hm]
    omega
  have large : ¬ c.val.toNat ≤ 127 := fun hc => h (Nat.lt_succ_of_le hc)
  unfold String.utf8EncodeChar
  dsimp only
  rw [if_neg large]
  split_ifs
  · exact ⟨_, _, rfl, first (by decide) (by omega)⟩
  · exact ⟨_, _, rfl, first (by decide) (by omega)⟩
  · exact ⟨_, _, rfl, first (by decide) (by omega)⟩

/-- A character of several bytes has one that is not ASCII, namely the last. -/
theorem length_utf8EncodeChar {c : Char}
    (h : ∀ b ∈ String.utf8EncodeChar c, b.toNat < 0x80) : (String.utf8EncodeChar c).length = 1 := by
  have last (v : Nat) : ¬ (UInt8.ofNat (v % 64 + 128)).toNat < 0x80 := by
    rw [UInt8.toNat_ofNat']
    omega
  unfold String.utf8EncodeChar at h ⊢
  dsimp only at h ⊢
  split_ifs at h ⊢
  · rfl
  all_goals exact absurd (h _ (by simp)) (last c.val.toNat)

/-- A text of ASCII bytes has one byte for each character. -/
theorem length_utf8 {cs : List Char} (h : ∀ b ∈ utf8 cs, b.toNat < 0x80) :
    (utf8 cs).length = cs.length := by
  induction cs with
  | nil => rfl
  | cons c cs ih =>
    rw [utf8, List.flatMap_cons] at h ⊢
    obtain ⟨hc, hcs⟩ := List.forall_mem_append.1 h
    rw [List.length_append, length_utf8EncodeChar hc, List.length_cons, Nat.add_comm]
    exact congrArg (· + 1) (ih hcs)

/-! ## Codes -/

/-- A property of ASCII codes holds of the bytes of a character when it holds of the character. -/
theorem forall_utf8EncodeChar_iff {p : Nat → Prop} (ascii : ∀ n, p n → n < 0x80) {c : Char} :
    (∀ b ∈ String.utf8EncodeChar c, p b.toNat) ↔ p c.toNat := by
  by_cases hc : c.toNat < 0x80
  · rw [utf8EncodeChar_ascii hc, List.forall_mem_singleton, toNat_ofNat_ascii hc]
  · refine iff_of_false (fun h => ?_) fun h => hc (ascii _ h)
    obtain ⟨b, bs, hbytes, hb⟩ := utf8EncodeChar_not_ascii hc
    exact absurd (ascii _ (h b (by simp [hbytes]))) (Nat.not_lt_of_le hb)

theorem forall_utf8_iff {p : Nat → Prop} (ascii : ∀ n, p n → n < 0x80) {cs : List Char} :
    (∀ b ∈ utf8 cs, p b.toNat) ↔ ∀ c ∈ cs, p c.toNat := by
  simp only [utf8, List.forall_mem_flatMap, forall_utf8EncodeChar_iff ascii]

/-- Whether a byte is that of an ASCII digit. -/
def isDigitByte (b : UInt8) : Bool := 0x30 ≤ b.toNat && b.toNat ≤ 0x39

theorem isDigitByte_iff {b : UInt8} :
    isDigitByte b = true ↔ 0x30 ≤ b.toNat ∧ b.toNat ≤ 0x39 := by
  simp [isDigitByte]

theorem digits_utf8_iff {cs : List Char} :
    (utf8 cs).all isDigitByte = true ↔ Decimal.Digits cs := by
  have digit (c : Char) : c.isDigit = true ↔ 0x30 ≤ c.toNat ∧ c.toNat ≤ 0x39 := by
    simp [Char.isDigit, UInt32.le_iff_toNat_le]
  have ascii (n : Nat) (h : 0x30 ≤ n ∧ n ≤ 0x39) : n < 0x80 := by omega
  simp only [List.all_eq_true, isDigitByte_iff, Decimal.Digits, digit]
  exact forall_utf8_iff ascii

end SigningPreview.Text
