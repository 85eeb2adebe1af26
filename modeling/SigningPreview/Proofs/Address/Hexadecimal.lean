import Mathlib.Tactic.IntervalCases
import SigningPreview.Proofs.Address.Length
import SigningPreview.Proofs.Text.Case

/-! # Two cases for a digit, and one text for an address

A byte is two nibbles, and a text of hexadecimal digits is one nibble a digit. So what is read from
a text of an even number of digits is written as the same text in lower case (`Hex.decode_utf8`),
and what was written is read as it was (`Hex.decode_encode`). The spellings of an EVM address
therefore differ in case alone, and one of them is its text (`Address.text_canonical`). -/
namespace SigningPreview.Evm

open Text

namespace Hex

/-! ## Digits -/

/-- The codes of the digits, of letters in either case. -/
def IsDigitCode (n : Nat) : Prop :=
  '0'.toNat ≤ n ∧ n ≤ '9'.toNat ∨ 'a'.toNat ≤ n ∧ n ≤ 'f'.toNat ∨ 'A'.toNat ≤ n ∧ n ≤ 'F'.toNat

/-- Every character is a digit. -/
def Digits (cs : List Char) : Prop := ∀ c ∈ cs, IsDigitCode c.toNat

theorem isDigitCode_iff {n : Nat} : IsDigitCode n ↔
    0x30 ≤ n ∧ n ≤ 0x39 ∨ 0x61 ≤ n ∧ n ≤ 0x66 ∨ 0x41 ≤ n ∧ n ≤ 0x46 := Iff.rfl

theorem IsDigitCode.ascii {n : Nat} (h : IsDigitCode n) : n < 0x80 := by
  rw [isDigitCode_iff] at h
  omega

theorem ofDigit?_eq_none_iff {b : UInt8} :
    Nibble.ofDigit? b = none ↔ ¬ IsDigitCode b.toNat := by
  rw [isDigitCode_iff, Nibble.ofDigit?]
  split_ifs <;> simp <;> omega

/-- A digit is written in lower case, whatever case it is read in. -/
theorem ofDigit?_of_isDigitCode {c : Char} (h : IsDigitCode c.toNat) :
    ∃ n, Nibble.ofDigit? (UInt8.ofNat c.toNat) = some n ∧ n.digit = c.toLower := by
  have lower (k : Nat) (hk : IsDigitCode k) :
      ∃ n, Nibble.ofDigit? (UInt8.ofNat k) = some n ∧ n.digit = (Char.ofNat k).toLower := by
    rw [isDigitCode_iff] at hk
    rcases hk with ⟨low, high⟩ | ⟨low, high⟩ | ⟨low, high⟩
    · interval_cases k <;> exact ⟨_, rfl, rfl⟩
    · interval_cases k <;> exact ⟨_, rfl, rfl⟩
    · interval_cases k <;> exact ⟨_, rfl, rfl⟩
  simpa using lower c.toNat h

theorem ofDigit?_digit (n : Nibble) : Nibble.ofDigit? (UInt8.ofNat n.digit.toNat) = some n := by
  revert n
  decide

theorem isDigitCode_digit (n : Nibble) : IsDigitCode n.digit.toNat := by
  unfold IsDigitCode
  revert n
  decide

theorem digit_ascii (n : Nibble) : n.digit.toNat < 0x80 := (isDigitCode_digit n).ascii

/-! ## Nibbles -/

theorem nibbles_cons {c : Char} {n : Nibble} (ascii : c.toNat < 0x80)
    (hn : Nibble.ofDigit? (UInt8.ofNat c.toNat) = some n) (cs : List Char) (position : Nat) :
    nibbles position (utf8 (c :: cs)) = (nibbles (position + 1) (utf8 cs)).map (n :: ·) := by
  rw [utf8, List.flatMap_cons, utf8EncodeChar_ascii ascii, List.singleton_append, nibbles, hn]
  rfl

theorem nibbles_utf8 {cs : List Char} (h : Digits cs) (position : Nat) :
    ∃ ns, nibbles position (utf8 cs) = .ok ns ∧ ns.map Nibble.digit = cs.map Char.toLower := by
  induction cs generalizing position with
  | nil => exact ⟨[], rfl, rfl⟩
  | cons c cs ih =>
    obtain ⟨hc, hcs⟩ := List.forall_mem_cons.1 h
    obtain ⟨n, hn, hdigit⟩ := ofDigit?_of_isDigitCode hc
    obtain ⟨ns, hns, hdigits⟩ := ih hcs (position + 1)
    refine ⟨n :: ns, ?_, by simp [hdigit, hdigits]⟩
    rw [nibbles_cons hc.ascii hn, hns]
    rfl

theorem nibbles_digits (ns : List Nibble) (position : Nat) :
    nibbles position (utf8 (ns.map Nibble.digit)) = .ok ns := by
  induction ns generalizing position with
  | nil => rfl
  | cons n ns ih =>
    rw [List.map_cons, nibbles_cons (digit_ascii n) (ofDigit?_digit n), ih]
    rfl

/-- The first byte that is no digit ends the reading. -/
theorem nibbles_fault {front back : List UInt8} {b : UInt8}
    (hfront : ∀ d ∈ front, IsDigitCode d.toNat) (hb : ¬ IsDigitCode b.toNat) (position : Nat) :
    nibbles position (front ++ b :: back) = .error (.notADigit b (position + front.length)) := by
  induction front generalizing position with
  | nil => rw [List.nil_append, nibbles, ofDigit?_eq_none_iff.2 hb]; rfl
  | cons d front ih =>
    obtain ⟨hd, hfront⟩ := List.forall_mem_cons.1 hfront
    cases hn : Nibble.ofDigit? d with
    | none => exact absurd hd (ofDigit?_eq_none_iff.1 hn)
    | some n =>
      rw [List.cons_append, nibbles, hn, List.length_cons, Nat.add_comm front.length,
        ← Nat.add_assoc]
      simp only [ih hfront]
      rfl

/-! ## Bytes -/

/-- The two nibbles of a byte. -/
def halves (b : UInt8) : List Nibble :=
  [⟨b.toNat / 16 % 16, Nat.mod_lt _ (by decide)⟩, ⟨b.toNat % 16, Nat.mod_lt _ (by decide)⟩]

theorem encode_eq_map (bytes : List UInt8) :
    encode bytes = (bytes.flatMap halves).map Nibble.digit := by
  rw [encode, List.map_flatMap]
  rfl

theorem length_encode (bytes : List UInt8) : (encode bytes).length = 2 * bytes.length := by
  induction bytes with
  | nil => rfl
  | cons b bytes ih =>
    rw [encode, List.flatMap_cons, List.length_append, ← encode, ih, List.length_cons]
    simp only [encodeByte, List.length_cons, List.length_nil]
    omega

theorem pairUp_halves (bytes : List UInt8) : pairUp (bytes.flatMap halves) = bytes := by
  induction bytes with
  | nil => rfl
  | cons b bytes ih =>
    have whole : 16 * (b.toNat / 16 % 16) + b.toNat % 16 = b.toNat := by
      have := b.toNat_lt
      omega
    rw [List.flatMap_cons, halves, List.cons_append, List.cons_append, List.nil_append, pairUp, ih]
    simp [whole]

theorem halves_ofNat (high low : Nibble) :
    halves (UInt8.ofNat (16 * high.val + low.val)) = [high, low] := by
  have small : 16 * high.val + low.val < 256 := by omega
  have byte : (UInt8.ofNat (16 * high.val + low.val)).toNat = 16 * high.val + low.val :=
    UInt8.toNat_ofNat_of_lt' small
  have first : (UInt8.ofNat (16 * high.val + low.val)).toNat / 16 % 16 = high.val := by
    rw [byte]
    omega
  have second : (UInt8.ofNat (16 * high.val + low.val)).toNat % 16 = low.val := by
    rw [byte]
    omega
  exact congrArg₂ (fun high low => [high, low]) (Fin.ext first) (Fin.ext second)

theorem halves_pairUp {ns : List Nibble} (even : ns.length % 2 = 0) :
    (pairUp ns).flatMap halves = ns := by
  fun_induction pairUp ns with
  | case1 high low rest ih =>
    have rest_even : rest.length % 2 = 0 := by
      simp only [List.length_cons] at even
      omega
    rw [List.flatMap_cons, ih rest_even, halves_ofNat]
    rfl
  | case2 ns other =>
    rcases ns with _ | ⟨high, _ | ⟨low, rest⟩⟩
    · rfl
    · simp at even
    · exact absurd rfl (other high low rest)

/-- What is a digit in lower case is one. -/
theorem isDigitCode_of_toLower {c d : Char} (h : c.toLower = d) (hd : IsDigitCode d.toNat) :
    IsDigitCode c.toNat := by
  have code := toNat_toLower c
  rw [h] at code
  rw [isDigitCode_iff] at hd ⊢
  split_ifs at code <;> omega

theorem digits_of_map_toLower {cs : List Char} {bytes : List UInt8}
    (h : cs.map Char.toLower = encode bytes) : Digits cs := by
  intro c hc
  have lower : c.toLower ∈ encode bytes := h ▸ List.mem_map_of_mem hc
  rw [encode_eq_map] at lower
  obtain ⟨n, -, hn⟩ := List.mem_map.1 lower
  exact isDigitCode_of_toLower hn.symm (isDigitCode_digit n)

/-! ## Bytes and texts -/

theorem forall_utf8 {cs : List Char} : (∀ b ∈ utf8 cs, IsDigitCode b.toNat) ↔ Digits cs :=
  forall_utf8_iff fun _ => IsDigitCode.ascii

/-- Digits are read as the bytes that are written with them in lower case. -/
theorem decode_utf8 {cs : List Char} (h : Digits cs) (even : (utf8 cs).length % 2 = 0) :
    ∃ bytes, decode (utf8 cs) = .ok bytes ∧ encode bytes = cs.map Char.toLower := by
  obtain ⟨ns, hns, hdigits⟩ := nibbles_utf8 h 0
  have paired : ns.length % 2 = 0 := by rwa [(nibbles_ok hns).1]
  refine ⟨pairUp ns, ?_, by rw [encode_eq_map, halves_pairUp paired, hdigits]⟩
  rw [decode, if_neg (by omega), hns]
  rfl

theorem decode_fault {text front back : List UInt8} {b : UInt8} (even : text.length % 2 = 0)
    (htext : text = front ++ b :: back) (hfront : ∀ d ∈ front, IsDigitCode d.toNat)
    (hb : ¬ IsDigitCode b.toNat) : decode text = .error (.notADigit b front.length) := by
  rw [decode, if_neg (by omega), htext, nibbles_fault hfront hb, Nat.zero_add]
  rfl

/-- Nothing but an even number of digits is read. -/
theorem digits_of_decode {cs : List Char} {bytes : List UInt8} (h : decode (utf8 cs) = .ok bytes) :
    (utf8 cs).length % 2 = 0 ∧ Digits cs := by
  have even : (utf8 cs).length % 2 = 0 := by
    have := (decode_ok h).1
    omega
  obtain digits | ⟨front, b, back, hbytes, hfront, hb⟩ :=
    forall_or_first (fun b : UInt8 => IsDigitCode b.toNat) (utf8 cs)
  · exact ⟨even, forall_utf8.1 digits⟩
  · rw [decode_fault even hbytes hfront hb] at h
    cases h

theorem decode_encode (bytes : List UInt8) : decode (utf8 (encode bytes)) = .ok bytes := by
  have ascii : ∀ c ∈ encode bytes, c.toNat < 0x80 := by
    rw [encode_eq_map]
    exact List.forall_mem_map.2 fun n _ => digit_ascii n
  have length : (utf8 (encode bytes)).length = 2 * bytes.length := by
    rw [length_utf8 ((forall_utf8_iff fun _ h => h).2 ascii), length_encode]
  rw [decode, if_neg (by omega), encode_eq_map, nibbles_digits]
  exact congrArg Except.ok (pairUp_halves bytes)

end Hex

/-! ## Addresses -/

namespace Address

/-- What follows the marker of a text. -/
def Marked (cs rest : List Char) : Prop := cs = '0' :: 'x' :: rest ∨ cs = '0' :: 'X' :: rest

theorem stripMarker?_eq_some_iff {cs rest : List Char} :
    stripMarker? cs = some rest ↔ Marked cs rest := by
  unfold Marked
  constructor
  · intro h
    unfold stripMarker? at h
    split at h
    · cases h
      exact .inl rfl
    · cases h
      exact .inr rfl
    · cases h
  · rintro (rfl | rfl) <;> rfl

theorem stripMarker?_eq_none {cs : List Char} (h : ∀ rest, ¬ Marked cs rest) :
    stripMarker? cs = none :=
  Option.eq_none_iff_forall_ne_some.2 fun rest hrest => h rest (stripMarker?_eq_some_iff.1 hrest)

/-- The marker in lower case. -/
theorem Marked.map_toLower {cs rest : List Char} (h : Marked cs rest) :
    cs.map Char.toLower = '0' :: 'x' :: rest.map Char.toLower := by
  rcases h with rfl | rfl <;> rfl

theorem marked_of_map_toLower {cs rest : List Char}
    (h : cs.map Char.toLower = '0' :: 'x' :: rest) :
    ∃ ds, Marked cs ds ∧ ds.map Char.toLower = rest := by
  obtain ⟨zero, tail, rfl, hzero, htail⟩ := List.map_eq_cons_iff.1 h
  obtain ⟨mark, ds, rfl, hmark, hds⟩ := List.map_eq_cons_iff.1 htail
  obtain rfl := eq_of_toLower hzero (by decide)
  refine ⟨ds, ?_, hds⟩
  rcases toNat_of_toLower hmark with code | code
  · rw [Char.toNat_inj.1 code]
    exact .inl rfl
  · have capital : mark.toNat = 'X'.toNat := Nat.add_right_cancel code
    rw [Char.toNat_inj.1 capital]
    exact .inr rfl

/-- The marker and forty digits. -/
def Spelled (cs : List Char) : Prop := ∃ ds, Marked cs ds ∧ Hex.Digits ds ∧ ds.length = 40

/-- How a text is read as an address. -/
structure Reads (s : String) : Prop where
  accepted : (∃ a, ofText s = .ok a) ↔ Spelled s.toList
  /-- An address is shown as it was spelled, in lower case. -/
  shown : ∀ a, ofText s = .ok a → a.text.toList = s.toList.map Char.toLower
  unmarked : (∀ rest, ¬ Marked s.toList rest) → ofText s = .error (.missingMarker s)
  odd : ∀ rest, Marked s.toList rest → (utf8 rest).length % 2 = 1 →
    ofText s = .error (.notHex s .oddLength)
  /-- Of an even number of bytes the first that is no digit is what is wrong. -/
  foreign : ∀ rest, Marked s.toList rest → (utf8 rest).length % 2 = 0 →
    ¬ (∀ b ∈ utf8 rest, Hex.IsDigitCode b.toNat) →
    ∃ front b back, utf8 rest = front ++ b :: back ∧
      (∀ d ∈ front, Hex.IsDigitCode d.toNat) ∧ ¬ Hex.IsDigitCode b.toNat ∧
      ofText s = .error (.notHex s (.notADigit b front.length))
  length : ∀ rest, Marked s.toList rest → (utf8 rest).length % 2 = 0 →
    (∀ b ∈ utf8 rest, Hex.IsDigitCode b.toNat) → (utf8 rest).length ≠ 40 →
    ofText s = .error (.wrongLength s ((utf8 rest).length / 2) 20)

theorem ofText_of_decode {s : String} {rest : List Char} {bytes : List UInt8}
    (marked : Marked s.toList rest) (h : Hex.decode (utf8 rest) = .ok bytes) :
    ofText s = if length : bytes.length = 20 then .ok ⟨bytes, length⟩
      else .error (.wrongLength s bytes.length 20) := by
  rw [ofText, stripMarker?_eq_some_iff.2 marked]
  simp only [h]

theorem ofText_of_fault {s : String} {rest : List Char} {cause : HexError}
    (marked : Marked s.toList rest) (h : Hex.decode (utf8 rest) = .error cause) :
    ofText s = .error (.notHex s cause) := by
  rw [ofText, stripMarker?_eq_some_iff.2 marked]
  simp only [h]

theorem exists_decode_of_ofText {s : String} {a : Address} (h : ofText s = .ok a) :
    ∃ rest, Marked s.toList rest ∧ Hex.decode (utf8 rest) = .ok a.bytes := by
  cases hrest : stripMarker? s.toList with
  | none =>
    rw [ofText, hrest] at h
    cases h
  | some rest =>
    have marked := stripMarker?_eq_some_iff.1 hrest
    cases hbytes : Hex.decode (utf8 rest) with
    | error cause =>
      rw [ofText_of_fault marked hbytes] at h
      cases h
    | ok bytes =>
      rw [ofText_of_decode marked hbytes] at h
      split_ifs at h
      cases h
      exact ⟨rest, marked, hbytes⟩

/-- An address is written as the text it is read from, but for the case. -/
theorem text_of_ofText {s : String} {a : Address} (h : ofText s = .ok a) :
    a.text.toList = s.toList.map Char.toLower := by
  obtain ⟨rest, marked, hdecode⟩ := exists_decode_of_ofText h
  obtain ⟨even, digits⟩ := Hex.digits_of_decode hdecode
  obtain ⟨bytes, hbytes, written⟩ := Hex.decode_utf8 digits even
  rw [hdecode] at hbytes
  cases hbytes
  rw [text, String.toList_ofList, written, marked.map_toLower]

theorem ofText_text (a : Address) : ofText a.text = .ok a := by
  have marked : Marked a.text.toList (Hex.encode a.bytes) := .inl (String.toList_ofList ..)
  rw [ofText_of_decode marked (Hex.decode_encode a.bytes), dif_pos a.length_eq]

theorem spelled_of_ofText {s : String} {a : Address} (h : ofText s = .ok a) :
    Spelled s.toList := by
  obtain ⟨rest, marked, hdecode⟩ := exists_decode_of_ofText h
  refine ⟨rest, marked, (Hex.digits_of_decode hdecode).2, ?_⟩
  have total := length_of_ofText h
  have marker : s.toList.length = rest.length + 2 :=
    length_of_stripMarker? (stripMarker?_eq_some_iff.2 marked)
  omega

theorem exists_of_spelled {s : String} (h : Spelled s.toList) : ∃ a, ofText s = .ok a := by
  obtain ⟨ds, marked, digits, length⟩ := h
  have ascii : ∀ b ∈ utf8 ds, b.toNat < 0x80 := fun b hb => (Hex.forall_utf8.2 digits b hb).ascii
  have count : (utf8 ds).length = 40 := (length_utf8 ascii).trans length
  obtain ⟨bytes, hbytes, -⟩ := Hex.decode_utf8 digits (by rw [count])
  have twenty : bytes.length = 20 := by
    have := (Hex.decode_ok hbytes).1
    omega
  exact ⟨⟨bytes, twenty⟩, by rw [ofText_of_decode marked hbytes, dif_pos twenty]⟩

/-- The texts that are read as an address are its text in any mixture of cases. -/
theorem ofText_eq_ok_iff {s : String} {a : Address} :
    ofText s = .ok a ↔ s.toList.map Char.toLower = a.text.toList := by
  refine ⟨fun h => (text_of_ofText h).symm, fun h => ?_⟩
  have written : a.text.toList = '0' :: 'x' :: Hex.encode a.bytes := String.toList_ofList
  obtain ⟨ds, marked, hds⟩ := marked_of_map_toLower (h.trans written)
  have length : ds.length = 40 := by
    rw [← List.length_map Char.toLower, hds, Hex.length_encode, a.length_eq]
  obtain ⟨b, hb⟩ := exists_of_spelled ⟨ds, marked, Hex.digits_of_map_toLower hds, length⟩
  -- What was read is written as `a` is, and nothing else is written so.
  have same : a.text = b.text := String.toList_inj.1 (h.symm.trans (text_of_ofText hb).symm)
  have read := ofText_text a
  rw [same, ofText_text b] at read
  rw [hb, read]

theorem reads (s : String) : Reads s where
  accepted := ⟨fun ⟨_, h⟩ => spelled_of_ofText h, exists_of_spelled⟩
  shown _ := text_of_ofText
  unmarked h := by rw [ofText, stripMarker?_eq_none h]
  odd rest marked odd := ofText_of_fault marked (if_pos odd)
  foreign rest marked even h := by
    obtain digits | ⟨front, b, back, hbytes, hfront, hb⟩ :=
      forall_or_first (fun b : UInt8 => Hex.IsDigitCode b.toNat) (utf8 rest)
    · exact absurd digits h
    · exact ⟨front, b, back, hbytes, hfront, hb,
        ofText_of_fault marked (Hex.decode_fault even hbytes hfront hb)⟩
  length rest marked even h other := by
    obtain ⟨bytes, hbytes, -⟩ := Hex.decode_utf8 (Hex.forall_utf8.1 h) even
    have count := (Hex.decode_ok hbytes).1
    have half : (utf8 rest).length / 2 = bytes.length := by omega
    rw [ofText_of_decode marked hbytes, dif_neg (by omega), half]

/-- Every address is read from its text, and the texts that are read as addresses are told apart by
nothing but their letters without their case. What is wrong with any other text is told in this
order: its marker, an odd number of bytes, its first byte that is no digit, how many bytes it
denotes. -/
theorem text_canonical :
    (∀ a : Address, ofText a.text = .ok a) ∧ (∀ s, Reads s) ∧
    ∀ s s' a a', ofText s = .ok a → ofText s' = .ok a' →
      (a = a' ↔ s.toList.map Char.toLower = s'.toList.map Char.toLower) := by
  refine ⟨ofText_text, reads, fun s s' a a' h h' => ?_⟩
  rw [← text_of_ofText h, ← text_of_ofText h']
  constructor
  · rintro rfl
    rfl
  · intro same
    have read := ofText_text a
    rw [String.toList_inj.1 same, ofText_text] at read
    exact (Except.ok.inj read).symm

example : ofText "0xzzz" = .error (.notHex "0xzzz" .oddLength) ∧
    ofText "0xzz" = .error (.notHex "0xzz" (.notADigit 0x7A 0)) ∧
    ofText "0x6B17" = .error (.wrongLength "0x6B17" 2 20) := by decide +kernel

end Address

end SigningPreview.Evm
