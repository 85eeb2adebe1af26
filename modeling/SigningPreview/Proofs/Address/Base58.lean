import Mathlib.Data.List.GetD
import SigningPreview.Proofs.Address.Length

/-! # One spelling for an address

A text that is spelled in base 58 is the numeral of one number, and each `1` at its front stands for
one zero byte more. Rewriting a numeral in another base keeps its leading zeros and its value, so
the way back leads to the same digits (`Base58.rebase_rebase`), and a text is read as just the bytes
that are written so (`Base58.decode_eq_ok_iff`). Addresses and the texts that are read as addresses
therefore match one to one (`Address.one_spelling`). -/
namespace SigningPreview

namespace Solana

namespace Base58

/-! ## What a text denotes -/

/-- Every character is a digit. -/
def Spelled (cs : List Char) : Prop := ∀ c ∈ cs, c ∈ alphabet

/-- The values of the digits. -/
def places (cs : List Char) : List Nat := cs.map alphabet.idxOf

/-- The number that the digits denote, the first of them the most significant. -/
def number (cs : List Char) : Nat := Nat.ofDigits 58 (places cs).reverse

/-- How many bytes a text denotes: one for each `1` at the front, and those of its number. -/
def byteCount (cs : List Char) : Nat :=
  (cs.takeWhile (· = '1')).length + (Nat.digits 256 (number cs)).length

/-- What is wrong with a character that is no digit. -/
def fault (c : Char) (position : Nat) : Base58Error :=
  if c.toNat < 0x80 then .notInAlphabet (UInt8.ofNat c.toNat) position else .notAscii position

/-! ## The alphabet -/

theorem ascii_of_mem_alphabet {c : Char} (h : c ∈ alphabet) : c.toNat < 0x80 := by
  have all : (alphabet.all fun c => c.toNat < 0x80) = true := by decide
  exact of_decide_eq_true (List.all_eq_true.1 all c h)

/-- The digits stand in the order of their codes, so none stands twice. -/
theorem nodup_alphabet : alphabet.Nodup := by
  have sorted : alphabet.IsChain (· < ·) := by decide
  exact (List.isChain_iff_pairwise.1 sorted).imp Char.ne_of_lt

theorem digit_eq_getElem {n : Nat} (h : n < alphabet.length) : digit n = alphabet[n] :=
  List.getD_eq_getElem _ _ h

theorem digit_mem {n : Nat} (h : n < 58) : digit n ∈ alphabet := by
  rw [digit_eq_getElem (h.trans_eq length_alphabet.symm)]
  exact List.getElem_mem _

theorem idxOf_digit {n : Nat} (h : n < 58) : alphabet.idxOf (digit n) = n := by
  rw [digit_eq_getElem (h.trans_eq length_alphabet.symm)]
  exact nodup_alphabet.idxOf_getElem n _

theorem digit_idxOf {c : Char} (h : c ∈ alphabet) : digit (alphabet.idxOf c) = c := by
  rw [digit_eq_getElem (List.idxOf_lt_length_iff.2 h)]
  exact List.getElem_idxOf _

theorem idxOf_lt {c : Char} (h : c ∈ alphabet) : alphabet.idxOf c < 58 :=
  (List.idxOf_lt_length_iff.2 h).trans_eq length_alphabet

theorem idxOf_eq_zero_iff (c : Char) : alphabet.idxOf c = 0 ↔ c = '1' := by
  obtain ⟨others, one⟩ : ∃ others, alphabet = '1' :: others :=
    List.head?_eq_some_iff.1 (by decide)
  rw [one, List.idxOf_cons]
  by_cases hc : c = '1'
  · simp [hc]
  · simp [hc, beq_false_of_ne (Ne.symm hc)]

/-- The value of a digit is its place in the alphabet. -/
theorem digitValue?_of_mem {c : Char} (h : c ∈ alphabet) :
    digitValue? (UInt8.ofNat c.toNat) = some (alphabet.idxOf c) := by
  refine List.findIdx?_eq_some_iff_getElem.2 ⟨List.idxOf_lt_length_iff.2 h, ?_, ?_⟩
  · rw [List.getElem_idxOf, Text.toNat_ofNat_ascii (ascii_of_mem_alphabet h)]
    exact decide_eq_true rfl
  · intro j before same
    rw [Text.toNat_ofNat_ascii (ascii_of_mem_alphabet h), decide_eq_true_iff] at same
    have found := nodup_alphabet.idxOf_getElem j (before.trans (List.idxOf_lt_length_iff.2 h))
    rw [Char.toNat_inj.1 same] at found
    exact absurd found.symm before.ne

/-- An ASCII character outside the alphabet has no value. -/
theorem digitValue?_eq_none {c : Char} (ascii : c.toNat < 0x80) (hc : c ∉ alphabet) :
    digitValue? (UInt8.ofNat c.toNat) = none := by
  refine List.findIdx?_eq_none_iff.2 fun d hd => decide_eq_false fun same => hc ?_
  rw [Text.toNat_ofNat_ascii ascii] at same
  exact Char.toNat_inj.1 same ▸ hd

theorem places_lt {cs : List Char} (h : Spelled cs) : ∀ d ∈ places cs, d < 58 :=
  List.forall_mem_map.2 fun c hc => idxOf_lt (h c hc)

theorem map_digit_places {cs : List Char} (h : Spelled cs) : (places cs).map digit = cs := by
  have back : ∀ c ∈ cs, (digit ∘ alphabet.idxOf) c = id c := fun c hc => digit_idxOf (h c hc)
  rw [places, List.map_map, List.map_congr_left back, List.map_id]

theorem places_map_digit {ds : List Nat} (h : ∀ d ∈ ds, d < 58) : places (ds.map digit) = ds := by
  have back : ∀ d ∈ ds, (alphabet.idxOf ∘ digit) d = id d := fun d hd => idxOf_digit (h d hd)
  rw [places, List.map_map, List.map_congr_left back, List.map_id]

/-! ## The digits of a text -/

theorem values_ascii {c : Char} (ascii : c.toNat < 0x80) (cs : List Char) (position : Nat) :
    values position (Text.utf8 (c :: cs)) =
      match digitValue? (UInt8.ofNat c.toNat) with
      | none => .error (.notInAlphabet (UInt8.ofNat c.toNat) position)
      | some n => (values (position + 1) (Text.utf8 cs)).map (n :: ·) := by
  have byte : ¬ 0x80 ≤ (UInt8.ofNat c.toNat).toNat := by
    rw [Text.toNat_ofNat_ascii ascii]
    exact Nat.not_le_of_lt ascii
  rw [Text.utf8, List.flatMap_cons, Text.utf8EncodeChar_ascii ascii, List.singleton_append,
    values_of_ascii byte]
  rfl

theorem values_cons {c : Char} (hc : c ∈ alphabet) (cs : List Char) (position : Nat) :
    values position (Text.utf8 (c :: cs)) =
      (values (position + 1) (Text.utf8 cs)).map (alphabet.idxOf c :: ·) := by
  rw [values_ascii (ascii_of_mem_alphabet hc), digitValue?_of_mem hc]

theorem values_utf8 {cs : List Char} (h : Spelled cs) (position : Nat) :
    values position (Text.utf8 cs) = .ok (places cs) := by
  induction cs generalizing position with
  | nil => rfl
  | cons c cs ih =>
    obtain ⟨hc, hcs⟩ := List.forall_mem_cons.1 h
    rw [values_cons hc, ih hcs]
    rfl

theorem values_cons_fault {c : Char} (hc : c ∉ alphabet) (cs : List Char) (position : Nat) :
    values position (Text.utf8 (c :: cs)) = .error (fault c position) := by
  by_cases ascii : c.toNat < 0x80
  · rw [values_ascii ascii, digitValue?_eq_none ascii hc, fault, if_pos ascii]
  · obtain ⟨b, bs, hbs, hb⟩ := Text.utf8EncodeChar_not_ascii ascii
    rw [Text.utf8, List.flatMap_cons, hbs, List.cons_append, values_of_not_ascii hb, fault,
      if_neg ascii]

/-- A text is refused for its first character that is no digit. -/
theorem values_fault {front : List Char} (h : Spelled front) {c : Char} (hc : c ∉ alphabet)
    (rest : List Char) (position : Nat) :
    values position (Text.utf8 (front ++ c :: rest)) =
      .error (fault c (position + front.length)) := by
  induction front generalizing position with
  | nil => exact values_cons_fault hc rest position
  | cons d front ih =>
    obtain ⟨hd, hfront⟩ := List.forall_mem_cons.1 h
    rw [List.cons_append, values_cons hd, ih hfront, List.length_cons, Nat.add_right_comm,
      Nat.add_assoc]
    rfl

theorem spelled_or_fault (cs : List Char) :
    Spelled cs ∨ ∃ front c rest, cs = front ++ c :: rest ∧ Spelled front ∧ c ∉ alphabet :=
  forall_or_first (· ∈ alphabet) cs

/-! ## From one base to another -/

section Rebase

variable {source target : Nat}

theorem rebase_lt (htarget : 2 ≤ target) (ds : List Nat) :
    ∀ d ∈ rebase source target ds, d < target := by
  refine List.forall_mem_append.2 ⟨fun d hd => ?_, Radix.digits_lt htarget⟩
  rw [List.eq_of_mem_replicate hd]
  exact Nat.zero_lt_of_lt htarget

/-- Back in the base it came from, a numeral is what it was. -/
theorem rebase_rebase (hsource : 2 ≤ source) (htarget : 2 ≤ target) {ds : List Nat}
    (hds : ∀ d ∈ ds, d < source) : rebase target source (rebase source target ds) = ds := by
  obtain ⟨zeros, rest, rfl, head⟩ := Radix.exists_leading_zeros ds
  rw [rebase_replicate_append zeros head,
    rebase_replicate_append zeros (Radix.digits_head htarget _), Radix.value_digits htarget,
    Radix.digits_value hsource (List.forall_mem_append.1 hds).2 head]

end Rebase

/-! ## Bytes and texts -/

theorem decode_utf8 {cs : List Char} (h : Spelled cs) :
    decode (Text.utf8 cs) = .ok ((rebase 58 256 (places cs)).map UInt8.ofNat) := by
  rw [decode, values_utf8 h]
  rfl

theorem decode_fault {front : List Char} (h : Spelled front) {c : Char} (hc : c ∉ alphabet)
    (rest : List Char) :
    decode (Text.utf8 (front ++ c :: rest)) = .error (fault c front.length) := by
  rw [decode, values_fault h hc, Nat.zero_add]
  rfl

theorem encode_spelled (bytes : List UInt8) : Spelled (encode bytes) := by
  refine List.forall_mem_map.2 fun d hd => ?_
  exact digit_mem (rebase_lt (by decide) _ d hd)

theorem decode_encode (bytes : List UInt8) : decode (Text.utf8 (encode bytes)) = .ok bytes := by
  have small : ∀ d ∈ bytes.map UInt8.toNat, d < 256 :=
    List.forall_mem_map.2 fun b _ => b.toNat_lt
  have back : (bytes.map UInt8.toNat).map UInt8.ofNat = bytes := by
    rw [List.map_map]
    exact List.map_id'' (fun b => UInt8.ofNat_toNat) bytes
  rw [decode_utf8 (encode_spelled bytes), encode, places_map_digit (rebase_lt (by decide) _),
    rebase_rebase (by decide) (by decide) small, back]

theorem encode_decode {cs : List Char} (h : Spelled cs) :
    encode ((rebase 58 256 (places cs)).map UInt8.ofNat) = cs := by
  have bytes : ((rebase 58 256 (places cs)).map UInt8.ofNat).map UInt8.toNat =
      rebase 58 256 (places cs) := by
    have back : ∀ d ∈ rebase 58 256 (places cs), (UInt8.toNat ∘ UInt8.ofNat) d = id d :=
      fun d hd => UInt8.toNat_ofNat_of_lt' (rebase_lt (by decide) _ d hd)
    rw [List.map_map, List.map_congr_left back, List.map_id]
  rw [encode, bytes, rebase_rebase (by decide) (by decide) (places_lt h), map_digit_places h]

/-- A text is read as bytes exactly when they are written so. -/
theorem decode_eq_ok_iff {cs : List Char} {bytes : List UInt8} :
    decode (Text.utf8 cs) = .ok bytes ↔ encode bytes = cs := by
  constructor
  · intro h
    rcases spelled_or_fault cs with hcs | ⟨front, c, rest, rfl, hfront, hc⟩
    · rw [decode_utf8 hcs] at h
      cases h
      exact encode_decode hcs
    · rw [decode_fault hfront hc] at h
      cases h
  · rintro rfl
    exact decode_encode bytes

theorem length_rebase (cs : List Char) :
    ((rebase 58 256 (places cs)).map UInt8.ofNat).length = byteCount cs := by
  have ones : ((places cs).takeWhile (· = 0)).length = (cs.takeWhile (· = '1')).length := by
    rw [places, List.takeWhile_map, List.length_map]
    congr 2
    funext c
    exact decide_eq_decide.2 (idxOf_eq_zero_iff c)
  rw [List.length_map, rebase, List.length_append, List.length_replicate, ones,
    Radix.value_eq_ofDigits, Radix.digits, List.length_reverse,
    Radix.lowFirst_eq_digits (by decide)]
  rfl

end Base58

/-! ## Addresses -/

namespace Address

/-- How a text is read as an address. -/
structure Reads (s : String) : Prop where
  /-- No other text is read as the same address. -/
  shown : ∀ a, ofText s = .ok a → a.text = s
  accepted : (∃ a, ofText s = .ok a) ↔
    Base58.Spelled s.toList ∧ Base58.byteCount s.toList = 32
  /-- The first character outside the alphabet is what is wrong with a text that has one. -/
  outside : ¬ Base58.Spelled s.toList → ∃ front c rest, s.toList = front ++ c :: rest ∧
    Base58.Spelled front ∧ c ∉ Base58.alphabet ∧
    ofText s = .error (.notBase58 s (Base58.fault c front.length))
  length : Base58.Spelled s.toList → Base58.byteCount s.toList ≠ 32 →
    ofText s = .error (.wrongLength s (Base58.byteCount s.toList) 32)

theorem ofText_text (a : Address) : ofText a.text = .ok a := by
  rw [ofText, text, String.toList_ofList, Base58.decode_encode]
  exact dif_pos a.length_eq

theorem text_of_ofText {s : String} {a : Address} (h : ofText s = .ok a) : a.text = s := by
  unfold ofText at h
  split at h
  · cases h
  next bytes hbytes =>
  split_ifs at h with length
  cases h
  rw [text, Base58.decode_eq_ok_iff.1 hbytes, String.ofList_toList]

theorem ofText_fault {s : String} {front rest : List Char} {c : Char}
    (hs : s.toList = front ++ c :: rest) (hfront : Base58.Spelled front)
    (hc : c ∉ Base58.alphabet) :
    ofText s = .error (.notBase58 s (Base58.fault c front.length)) := by
  rw [ofText, hs, Base58.decode_fault hfront hc]

theorem exists_ofText {s : String} (hs : Base58.Spelled s.toList)
    (length : Base58.byteCount s.toList = 32) : ∃ a, ofText s = .ok a := by
  rw [ofText, Base58.decode_utf8 hs]
  exact ⟨_, dif_pos ((Base58.length_rebase _).trans length)⟩

theorem ofText_wrongLength {s : String} (hs : Base58.Spelled s.toList)
    (length : Base58.byteCount s.toList ≠ 32) :
    ofText s = .error (.wrongLength s (Base58.byteCount s.toList) 32) := by
  rw [ofText, Base58.decode_utf8 hs, ← Base58.length_rebase]
  refine dif_neg ?_
  rw [Base58.length_rebase]
  exact length

theorem reads (s : String) : Reads s where
  shown _ h := text_of_ofText h
  accepted := by
    refine ⟨?_, fun ⟨hs, length⟩ => exists_ofText hs length⟩
    rintro ⟨a, ha⟩
    rcases Base58.spelled_or_fault s.toList with hs | ⟨front, c, rest, hs, hfront, hc⟩
    · by_contra h
      rw [ofText_wrongLength hs fun length => h ⟨hs, length⟩] at ha
      cases ha
    · rw [ofText_fault hs hfront hc] at ha
      cases ha
  outside h := by
    rcases Base58.spelled_or_fault s.toList with hs | ⟨front, c, rest, hs, hfront, hc⟩
    · exact absurd hs h
    · exact ⟨front, c, rest, hs, hfront, hc, ofText_fault hs hfront hc⟩
  length := ofText_wrongLength

/-- Addresses and the texts that are read as addresses match one to one, and what is wrong with any
other text is told: its first character outside the alphabet, or else how many bytes it denotes. -/
theorem one_spelling : (∀ a : Address, ofText a.text = .ok a) ∧ ∀ s, Reads s :=
  ⟨ofText_text, reads⟩

example : ofText "11111111111111111111111111111111" = .ok ⟨List.replicate 32 0, by decide⟩ := by
  decide +kernel

end Address

end Solana

end SigningPreview
