import SigningPreview.Json.Spelling

/-! # Tokens that are spelled are scanned

A token is recognized at the front of any text that goes on after it, with one proviso: what
follows a numeral must not go on with it (`Token.Stops`). `next?_spell` says so for all kinds of
tokens, from one lemma for each part of a numeral and one for each character of a string. -/
namespace SigningPreview.Json

/-! ## Digits -/

/-- The text does not begin with a digit. -/
def NoDigit (cs : List Char) : Prop := ∀ c, cs.head? = some c → c.isDigit = false

theorem noDigit_cons {c : Char} (h : c.isDigit = false) (cs : List Char) : NoDigit (c :: cs) := by
  intro d hd
  cases hd
  exact h

namespace Token

theorem spanDigits_append {ds rest : List Char} (hds : ∀ c ∈ ds, c.isDigit = true)
    (hrest : NoDigit rest) :
    spanDigits (ds ++ rest) = (ds.map fun c => c.toNat - '0'.toNat, rest) := by
  induction ds with
  | nil =>
    cases rest with
    | nil => rfl
    | cons c rest => simp [spanDigits, hrest c rfl]
  | cons c ds ih =>
    obtain ⟨hc, hds⟩ := List.forall_mem_cons.1 hds
    simp [spanDigits, hc, ih hds]

theorem value_digitChar {d : Nat} (h : d < 10) : (Nat.digitChar d).toNat - '0'.toNat = d :=
  Nat.toNat_digitChar_sub_48_of_lt_ten h

theorem isDigit_of_mem_toDigits {n : Nat} : ∀ c ∈ Nat.toDigits 10 n, c.isDigit = true :=
  fun _ hc => Nat.isDigit_of_mem_toDigits (by decide) (by decide) hc

theorem ofDigits_toDigits (n : Nat) :
    ofDigits ((Nat.toDigits 10 n).map fun c => c.toNat - '0'.toNat) = n := by
  rw [ofDigits, List.foldl_map, ← Nat.ofDigitChars_eq_foldl, Nat.ofDigitChars_ten_toDigits]

/-- A decimal numeral is a digit, followed by more only if that digit is no zero. -/
theorem toDigits_head (n : Nat) :
    ∃ d ds, Nat.toDigits 10 n = Nat.digitChar d :: ds ∧ d < 10 ∧ (d = 0 → ds = []) := by
  induction n using Nat.strongRecOn with
  | ind n ih =>
    by_cases hn : n < 10
    · exact ⟨n, [], Nat.toDigits_of_lt_base hn, hn, fun _ => rfl⟩
    · obtain ⟨d, ds, hds, hd, hzero⟩ := ih (n / 10) (by omega)
      rw [Nat.toDigits_of_base_le (by decide) (by omega), hds]
      refine ⟨d, _, rfl, hd, fun h0 => ?_⟩
      -- a leading zero would stand for a quotient that is zero
      have value := ofDigits_toDigits (n / 10)
      rw [hds, hzero h0, h0] at value
      have : n / 10 = 0 := value.symm
      omega

/-- The digits of a number are read to their end, and denote it. -/
theorem spanDigits_toDigits (n : Nat) {rest : List Char} (hrest : NoDigit rest) :
    ∃ d ds, spanDigits (Nat.toDigits 10 n ++ rest) = (d :: ds, rest) ∧ ofDigits (d :: ds) = n ∧
      (d = 0 → ds = []) := by
  have value := ofDigits_toDigits n
  obtain ⟨d, ds, hds, hd, hzero⟩ := toDigits_head n
  rw [spanDigits_append isDigit_of_mem_toDigits hrest]
  rw [hds, List.map_cons, value_digitChar hd] at value ⊢
  exact ⟨d, _, rfl, value, fun h0 => by rw [hzero h0]; rfl⟩

/-! ## Parts of a numeral -/

/-- A point and digits, or nothing. -/
def spellFraction (ds : List Nat) : List Char :=
  if ds = [] then [] else '.' :: ds.map Nat.digitChar

/-- A letter and an integer, or nothing. -/
def spellExponent : Option Int → List Char
  | none => []
  | some e => 'e' :: (if e < 0 then ['-'] else []) ++ Nat.toDigits 10 e.natAbs

theorem spellNumeral_eq (n : Numeral) :
    spellNumeral n = (if n.negative then ['-'] else []) ++ Nat.toDigits 10 n.whole
      ++ spellFraction n.fraction ++ spellExponent n.exponent := by
  obtain ⟨negative, whole, fraction, exponent⟩ := n
  cases exponent <;> rfl

theorem whole?_toDigits (n : Nat) {rest : List Char} (hrest : NoDigit rest) :
    whole? (Nat.toDigits 10 n ++ rest) = some (n, rest) := by
  obtain ⟨d, ds, spanned, value, hzero⟩ := spanDigits_toDigits n hrest
  rw [whole?, spanned]
  cases d with
  | zero => rw [hzero rfl] at value ⊢; exact congrArg (fun n => some (n, rest)) value
  | succ d => exact congrArg (fun n => some (n, rest)) value

theorem fraction?_spell {ds : List Nat} (hds : ∀ d ∈ ds, d < 10) {rest : List Char}
    (hrest : NoDigit rest) (hpoint : rest.head? ≠ some '.') :
    fraction? (spellFraction ds ++ rest) = some (ds, rest) := by
  cases ds with
  | nil =>
    cases rest with
    | nil => rfl
    | cons c rest =>
      have hc : c ≠ '.' := fun h => hpoint (congrArg some h)
      simp [spellFraction, fraction?, hc]
  | cons d ds =>
    have digits : ∀ c ∈ (d :: ds).map Nat.digitChar, c.isDigit = true := by
      intro c hc
      obtain ⟨k, hk, rfl⟩ := List.mem_map.1 hc
      rw [Nat.isDigit_digitChar]
      exact decide_eq_true (hds k hk)
    have values : ((d :: ds).map Nat.digitChar).map (fun c => c.toNat - '0'.toNat) = d :: ds := by
      rw [List.map_map]
      refine (List.map_congr_left fun k hk => ?_).trans (List.map_id _)
      exact value_digitChar (hds k hk)
    rw [spellFraction, if_neg (List.cons_ne_nil d ds), List.cons_append, fraction?,
      spanDigits_append digits hrest, values]

theorem ne_of_isDigit {c d : Char} (hc : c.isDigit = true) (hd : d.isDigit = false) : c ≠ d := by
  rintro rfl
  rw [hc] at hd
  cases hd

/-- A numeral begins with a digit, which is neither of the signs. -/
theorem toDigits_cons (n : Nat) :
    ∃ c cs, Nat.toDigits 10 n = c :: cs ∧ c.isDigit = true ∧ c ≠ '-' ∧ c ≠ '+' := by
  obtain ⟨d, ds, hds, -⟩ := toDigits_head n
  have digit : (Nat.digitChar d).isDigit = true := by
    refine isDigit_of_mem_toDigits (n := n) _ ?_
    rw [hds]
    exact List.mem_cons_self ..
  exact ⟨_, ds, hds, digit, ne_of_isDigit digit rfl, ne_of_isDigit digit rfl⟩

theorem exponentValue?_spell (e : Int) {rest : List Char} (hrest : NoDigit rest) :
    exponentValue? ((if e < 0 then ['-'] else []) ++ Nat.toDigits 10 e.natAbs ++ rest) =
      some (e, rest) := by
  obtain ⟨d, ds, spanned, value, -⟩ := spanDigits_toDigits e.natAbs hrest
  by_cases he : e < 0
  · have negative : -(e.natAbs : Int) = e := by omega
    rw [if_pos he]
    simp only [List.cons_append, List.nil_append, exponentValue?, spanned, value, negative, if_true]
  · obtain ⟨c, cs, hcs, -, minus, plus⟩ := toDigits_cons e.natAbs
    have positive : (e.natAbs : Int) = e := by omega
    rw [hcs] at spanned ⊢
    simp only [List.cons_append] at spanned
    simp [he, exponentValue?, minus, plus, spanned, value, positive]

theorem exponent?_spell (e : Option Int) {rest : List Char} (hrest : NoDigit rest)
    (hsmall : rest.head? ≠ some 'e') (hlarge : rest.head? ≠ some 'E') :
    exponent? (spellExponent e ++ rest) = some (e, rest) := by
  cases e with
  | none =>
    cases rest with
    | nil => rfl
    | cons c rest =>
      have small : c ≠ 'e' := fun h => hsmall (congrArg some h)
      have large : c ≠ 'E' := fun h => hlarge (congrArg some h)
      simp [spellExponent, exponent?, small, large]
  | some e =>
    have value := exponentValue?_spell e hrest
    simp only [spellExponent, List.cons_append, exponent?, value]
    rfl

/-! ## Numerals -/

/-- The text does not go on with a numeral. -/
def Stops (rest : List Char) : Prop :=
  ∀ c, rest.head? = some c → c.isDigit = false ∧ c ≠ '.' ∧ c ≠ 'e' ∧ c ≠ 'E'

theorem stops_nil : Stops [] := nofun

theorem stops_cons {c : Char} (h : c.isDigit = false ∧ c ≠ '.' ∧ c ≠ 'e' ∧ c ≠ 'E')
    (cs : List Char) : Stops (c :: cs) := by
  intro d hd
  cases hd
  exact h

theorem Stops.head_ne {rest : List Char} (h : Stops rest) :
    rest.head? ≠ some '.' ∧ rest.head? ≠ some 'e' ∧ rest.head? ≠ some 'E' :=
  ⟨fun hc => (h _ hc).2.1 rfl, fun hc => (h _ hc).2.2.1 rfl, fun hc => (h _ hc).2.2.2 rfl⟩

theorem noDigit_exponent (e : Option Int) {rest : List Char} (h : Stops rest) :
    NoDigit (spellExponent e ++ rest) ∧ (spellExponent e ++ rest).head? ≠ some '.' := by
  cases e with
  | none => exact ⟨fun c hc => (h c hc).1, h.head_ne.1⟩
  | some e => exact ⟨noDigit_cons rfl _, by simp [spellExponent]⟩

theorem noDigit_fraction (ds : List Nat) {rest : List Char} (h : NoDigit rest) :
    NoDigit (spellFraction ds ++ rest) := by
  cases ds with
  | nil => exact h
  | cons d ds => exact noDigit_cons rfl _

theorem sign_spell (negative : Bool) (n : Nat) (rest : List Char) :
    sign ((if negative then ['-'] else []) ++ (Nat.toDigits 10 n ++ rest)) =
      (negative, Nat.toDigits 10 n ++ rest) := by
  cases negative with
  | true => rfl
  | false =>
    obtain ⟨c, cs, hcs, -, minus, -⟩ := toDigits_cons n
    rw [hcs]
    simp [sign, minus]

/-- Every part of a numeral ends where the next begins. -/
theorem numeral?_spell {n : Numeral} (hn : ∀ d ∈ n.fraction, d < 10) {rest : List Char}
    (hrest : Stops rest) : numeral? (spellNumeral n ++ rest) = some (n, rest) := by
  obtain ⟨-, small, large⟩ := hrest.head_ne
  obtain ⟨hexponent, point⟩ := noDigit_exponent n.exponent hrest
  have exponent := exponent?_spell n.exponent (fun c hc => (hrest c hc).1) small large
  have fraction := fraction?_spell hn hexponent point
  have whole := whole?_toDigits n.whole (noDigit_fraction n.fraction hexponent)
  rw [spellNumeral_eq, List.append_assoc, List.append_assoc, List.append_assoc, numeral?,
    sign_spell]
  simp [whole, fraction, exponent]

/-! ## Strings -/

theorem hexValue?_digitChar : ∀ d < 16, hexValue? (Nat.digitChar d) = some d := by decide

theorem unit?_fourDigits {u : Nat} (h : u < 65536) :
    ∃ a b c d, fourDigits u = [a, b, c, d] ∧ unit? a b c d = some u := by
  refine ⟨_, _, _, _, rfl, ?_⟩
  rw [unit?, hexValue?_digitChar _ (by omega), hexValue?_digitChar _ (by omega),
    hexValue?_digitChar _ (by omega), hexValue?_digitChar _ (by omega)]
  simp only [Option.pure_def, Option.bind_eq_bind, Option.bind_some]
  congr 1
  omega

/-- One piece in front of what the rest of a string gives. -/
def addPiece (p : Piece) : Option (List Piece × List Char) → Option (List Piece × List Char) :=
  Option.map fun (ps, rest) => (p :: ps, rest)

theorem pieces?_quote (rest : List Char) : pieces? ('"' :: rest) = some ([], rest) := rfl

theorem pieces?_short {e c : Char} (he : e ≠ 'u') (h : escaped? e = some c) (rest : List Char) :
    pieces? ('\\' :: e :: rest) = addPiece (.char c) (pieces? rest) := by
  rw [pieces?]
  · rw [h]
    cases pieces? rest <;> rfl
  · intro _ _ _ _ _ hu _
    exact he hu

theorem pieces?_plain {c : Char} (hquote : c ≠ '"') (hslash : c ≠ '\\') (h : ¬ c.toNat < 0x20)
    (rest : List Char) : pieces? (c :: rest) = addPiece (.char c) (pieces? rest) := by
  rw [pieces?]
  · rw [if_neg h]
    cases pieces? rest <;> rfl
  · exact hquote
  · intro _ _ _ _ _ hc _
    exact hslash hc
  · intro _ _ hc _
    exact hslash hc

theorem pieces?_unit {u : Nat} (h : u < 65536) (rest : List Char) :
    pieces? ('\\' :: 'u' :: fourDigits u ++ rest) = addPiece (.unit u) (pieces? rest) := by
  obtain ⟨a, b, c, d, hdigits, hu⟩ := unit?_fourDigits h
  have read : pieces? ('\\' :: 'u' :: a :: b :: c :: d :: rest) =
      (unit? a b c d).bind fun u =>
        (pieces? rest).bind fun (ps, rest) => some (.unit u :: ps, rest) := rfl
  rw [hdigits]
  refine read.trans ?_
  rw [hu]
  cases pieces? rest <;> rfl

/-- A character is spelled as one piece, which makes the character again. -/
theorem pieces?_escape (c : Char) :
    ∃ p, (∀ rest, pieces? (escape c ++ rest) = addPiece p (pieces? rest)) ∧
      ∀ ps, join? (p :: ps) = (join? ps).map (c :: ·) := by
  have short {e : Char} (he : e ≠ 'u') (h : escaped? e = some c) :
      ∃ p, (∀ rest, pieces? (['\\', e] ++ rest) = addPiece p (pieces? rest)) ∧
        ∀ ps, join? (p :: ps) = (join? ps).map (c :: ·) :=
    ⟨.char c, pieces?_short he h, fun ps => rfl⟩
  unfold escape
  split
  · next h => exact short (by decide) (by rw [h]; rfl)
  split
  · next h => exact short (by decide) (by rw [h]; rfl)
  split
  · next h => exact short (by decide) (by rw [h]; rfl)
  split
  · next h => exact short (by decide) (by rw [h]; rfl)
  split
  · next h => exact short (by decide) (by rw [h]; rfl)
  split
  · next h => exact short (by decide) (by rw [h]; rfl)
  split
  · next h => exact short (by decide) (by rw [h]; rfl)
  split
  · next h =>
    have lead : isLead c.toNat = false := by simp [isLead]; omega
    have trail : isTrail c.toNat = false := by simp [isTrail]; omega
    refine ⟨.unit c.toNat, pieces?_unit (by omega), fun ps => ?_⟩
    rw [join?.eq_def]
    simp [lead, trail, Char.ofNat_toNat]
  · next hquote hslash _ _ _ _ _ h => exact ⟨.char c, pieces?_plain hquote hslash h, fun ps => rfl⟩

theorem pieces?_spell (cs rest : List Char) :
    ∃ ps, pieces? (cs.flatMap escape ++ '"' :: rest) = some (ps, rest) ∧ join? ps = some cs := by
  induction cs with
  | nil => exact ⟨[], pieces?_quote rest, rfl⟩
  | cons c cs ih =>
    obtain ⟨p, hp, hjoin⟩ := pieces?_escape c
    obtain ⟨ps, hps, hcs⟩ := ih
    refine ⟨p :: ps, ?_, by rw [hjoin, hcs]; rfl⟩
    rw [List.flatMap_cons, List.append_assoc, hp, hps]; rfl

/-- The text after the opening quotation mark of a string. -/
theorem string?_spell (content : Option String) (rest : List Char) :
    ∃ cs, spellString content = '"' :: cs ∧ string? (cs ++ rest) = some (.str content, rest) := by
  cases content with
  | none =>
    refine ⟨'\\' :: 'u' :: fourDigits 0xD800 ++ ['"'], rfl, ?_⟩
    rw [string?, List.append_assoc, List.singleton_append, pieces?_unit (by decide),
      pieces?_quote]
    rfl
  | some s =>
    obtain ⟨ps, hps, hjoin⟩ := pieces?_spell s.toList rest
    refine ⟨s.toList.flatMap escape ++ ['"'], rfl, ?_⟩
    rw [string?, List.append_assoc, List.singleton_append, hps]
    simp [hjoin]

/-! ## Tokens -/

/-- Tokens that have a spelling. -/
def Spellable : Token → Prop
  | num n => ∀ d ∈ n.fraction, d < 10
  | junk => False
  | _ => True

/-- A character that can only begin a numeral. -/
theorem next?_numeral {c : Char} (hc : c.isDigit = true ∨ c = '-') (cs : List Char) :
    next? (c :: cs) = (numeral? (c :: cs)).map fun (n, rest) => (.num n, rest) := by
  unfold next?
  split
  case h_11 => rfl
  all_goals next h => cases h; simp at hc

theorem next?_spellNumeral {n : Numeral} (hn : ∀ d ∈ n.fraction, d < 10) {rest : List Char}
    (hrest : Stops rest) : next? (spellNumeral n ++ rest) = some (.num n, rest) := by
  have value := numeral?_spell hn hrest
  have begins : ∃ c cs, spellNumeral n ++ rest = c :: cs ∧ (c.isDigit = true ∨ c = '-') := by
    obtain ⟨c, cs, hcs, digit, -⟩ := toDigits_cons n.whole
    rw [spellNumeral_eq, hcs]
    cases n.negative with
    | true => exact ⟨'-', _, rfl, .inr rfl⟩
    | false => exact ⟨c, _, rfl, .inl digit⟩
  obtain ⟨c, cs, hcs, hc⟩ := begins
  rw [hcs] at value ⊢
  rw [next?_numeral hc, value]; rfl

/-- A token is recognized where it is spelled. -/
theorem next?_spell {t : Token} (ht : t.Spellable) {rest : List Char}
    (hrest : (∃ n, t = .num n) → Stops rest) : next? (t.spell ++ rest) = some (t, rest) := by
  cases t with
  | num n => exact next?_spellNumeral ht (hrest ⟨n, rfl⟩)
  | str content =>
    obtain ⟨cs, hcs, h⟩ := string?_spell content rest
    rw [spell, hcs, List.cons_append, next?, h]
  | bool b => cases b <;> rfl
  | junk => exact ht.elim
  | openObject | closeObject | openArray | closeArray | colon | comma | null => rfl

/-- No token begins with a blank. -/
theorem next?_space {c : Char} (hc : isSpace c = true) (cs : List Char) :
    next? (c :: cs) = none := by
  have : c = ' ' ∨ c = '\t' ∨ c = '\n' ∨ c = '\r' := by simpa [isSpace, or_assoc] using hc
  obtain rfl | rfl | rfl | rfl := this <;> rfl

theorem scan_of_next {cs rest : List Char} {t : Token} (h : next? cs = some (t, rest)) :
    scan cs = t :: scan rest := by
  have noSpace : cs.dropWhile isSpace = cs := by
    cases cs with
    | nil => rfl
    | cons c cs =>
      by_cases hc : isSpace c = true
      · rw [next?_space hc] at h; cases h
      · exact List.dropWhile_cons_of_neg hc
  rw [scan]
  split
  · next hnil => rw [noSpace] at hnil; rw [hnil] at h; cases h
  · next c cs' hcons =>
    rw [noSpace] at hcons
    subst hcons
    split
    · next hnone => rw [h] at hnone; cases hnone
    · next t' rest' hsome =>
      rw [h] at hsome
      cases hsome
      rfl

theorem scan_spell {t : Token} (ht : t.Spellable) {rest : List Char}
    (hrest : (∃ n, t = .num n) → Stops rest) : scan (t.spell ++ rest) = t :: scan rest :=
  scan_of_next (next?_spell ht hrest)

theorem scan_nil : scan [] = [] := by rw [scan]; rfl

/-! ## Lists of tokens -/

/-- The text of some tokens is scanned to these tokens, if a numeral at its end stops there. -/
def Scans (tokens : List Token) : Prop :=
  ∀ rest : List Char, Stops rest → scan (tokens.flatMap spell ++ rest) = tokens ++ scan rest

/-- A token whose own text shows where it ends. -/
def Delimited : Token → Prop
  | num _ | junk => False
  | _ => True

/-- A token that may follow a value. -/
def Separates : Token → Prop
  | comma | colon | closeArray | closeObject => True
  | _ => False

theorem Scans.nil : Scans [] := fun _ _ => rfl

theorem Scans.num {n : Numeral} (digits : ∀ d ∈ n.fraction, d < 10) : Scans [.num n] := by
  intro rest hrest
  have spellable : (Token.num n).Spellable := digits
  rw [List.flatMap_singleton]
  exact scan_spell spellable fun _ => hrest

theorem Scans.cons {t : Token} (ht : t.Delimited) {tokens : List Token} (h : Scans tokens) :
    Scans (t :: tokens) := by
  intro rest hrest
  have spellable : t.Spellable := by
    cases t <;> first | exact ht.elim | trivial
  have delimited : (∃ n, t = .num n) → Stops (tokens.flatMap spell ++ rest) := by
    rintro ⟨n, rfl⟩
    exact ht.elim
  rw [List.flatMap_cons, List.append_assoc, scan_spell spellable delimited, h rest hrest]
  rfl

theorem stops_spell {t : Token} (ht : t.Separates) (rest : List Char) :
    Stops (t.spell ++ rest) := by
  cases t with
  | comma | colon | closeArray | closeObject => exact stops_cons (by decide) rest
  | _ => exact ht.elim

/-- A numeral at the end of some tokens stops where the next token may follow a value. -/
theorem Scans.append {tokens tokens' : List Token} {t : Token} (ht : t.Separates)
    (h : Scans tokens) (h' : Scans tokens') : Scans (tokens ++ t :: tokens') := by
  intro rest hrest
  have delimited : t.Delimited := by
    cases t <;> first | exact ht.elim | trivial
  have stops : Stops ((t :: tokens').flatMap spell ++ rest) := by
    rw [List.flatMap_cons, List.append_assoc]
    exact stops_spell ht _
  rw [List.flatMap_append, List.append_assoc, List.append_assoc, h _ stops,
    h'.cons delimited rest hrest]

end Token

end SigningPreview.Json
