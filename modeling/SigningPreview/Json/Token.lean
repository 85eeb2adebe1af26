import SigningPreview.Json.Number

/-! # Tokens of JSON texts

`scan` cuts a text into tokens from left to right. It never looks back, so a text that stops being
JSON still has tokens up to that point; there the list ends in `Token.junk`. -/
namespace SigningPreview.Json

/-- The lexical parts of a JSON text. -/
inductive Token where
  | openObject
  | closeObject
  | openArray
  | closeArray
  | colon
  | comma
  | null
  | bool (b : Bool)
  | num (n : Numeral)
  /-- A string; no content when its escapes spell half of a surrogate pair. -/
  | str (content : Option String)
  /-- What stands here begins no token. -/
  | junk
  deriving DecidableEq

namespace Token

/-- The blanks between tokens. -/
def isSpace (c : Char) : Bool := c = ' ' || c = '\t' || c = '\n' || c = '\r'

/-! ## Numerals -/

/-- The values of the digits at the front of a text, and the text after them. -/
def spanDigits : List Char → List Nat × List Char
  | [] => ([], [])
  | c :: cs =>
    if c.isDigit then
      let (ds, rest) := spanDigits cs
      ((c.toNat - '0'.toNat) :: ds, rest)
    else ([], c :: cs)

/-- The number that decimal digits denote. -/
def ofDigits (ds : List Nat) : Nat := ds.foldl (fun n d => 10 * n + d) 0

/-- The sign at the front of a text: whether there is a minus. -/
def sign : List Char → Bool × List Char
  | '-' :: cs => (true, cs)
  | cs => (false, cs)

/-- The whole part of a numeral: digits that do not begin with an idle zero. -/
def whole? (cs : List Char) : Option (Nat × List Char) :=
  match spanDigits cs with
  | ([], _) => none
  | (0 :: _ :: _, _) => none
  | (ds, rest) => some (ofDigits ds, rest)

/-- The fraction of a numeral: a point and at least one digit, or nothing. -/
def fraction? : List Char → Option (List Nat × List Char)
  | '.' :: cs =>
    match spanDigits cs with
    | ([], _) => none
    | (ds, rest) => some (ds, rest)
  | cs => some ([], cs)

/-- The sign and digits of an exponent. -/
def exponentValue? (cs : List Char) : Option (Int × List Char) :=
  let (negative, cs) :=
    match cs with
    | '-' :: cs => (true, cs)
    | '+' :: cs => (false, cs)
    | cs => (false, cs)
  match spanDigits cs with
  | ([], _) => none
  | (ds, rest) => some (if negative then -(ofDigits ds : Int) else ofDigits ds, rest)

/-- The exponent of a numeral: a letter and an integer, or nothing. -/
def exponent? : List Char → Option (Option Int × List Char)
  | 'e' :: cs => (exponentValue? cs).map fun (e, rest) => (some e, rest)
  | 'E' :: cs => (exponentValue? cs).map fun (e, rest) => (some e, rest)
  | cs => some (none, cs)

/-- The numeral at the front of a text. -/
def numeral? (cs : List Char) : Option (Numeral × List Char) := do
  let (negative, cs) := sign cs
  let (whole, cs) ← whole? cs
  let (fraction, cs) ← fraction? cs
  let (exponent, cs) ← exponent? cs
  pure (⟨negative, whole, fraction, exponent⟩, cs)

/-! ## Strings -/

/-- A part of a string: a character, or sixteen bits that an escape gives by number. -/
inductive Piece where
  | char (c : Char)
  | unit (u : Nat)
  deriving DecidableEq

/-- The value of a hexadecimal digit. -/
def hexValue? (c : Char) : Option Nat :=
  if '0' ≤ c ∧ c ≤ '9' then some (c.toNat - '0'.toNat)
  else if 'a' ≤ c ∧ c ≤ 'f' then some (c.toNat - 'a'.toNat + 10)
  else if 'A' ≤ c ∧ c ≤ 'F' then some (c.toNat - 'A'.toNat + 10)
  else none

/-- The number that four hexadecimal digits denote. -/
def unit? (a b c d : Char) : Option Nat := do
  pure ((((← hexValue? a) * 16 + (← hexValue? b)) * 16 + (← hexValue? c)) * 16 + (← hexValue? d))

/-- The character that a letter after a backslash denotes. -/
def escaped? : Char → Option Char
  | '"' => some '"'
  | '\\' => some '\\'
  | '/' => some '/'
  | 'b' => some '\x08'
  | 'f' => some '\x0c'
  | 'n' => some '\n'
  | 'r' => some '\r'
  | 't' => some '\t'
  | _ => none

/-- The parts of a string up to its closing quotation mark, and the text after that. -/
def pieces? : List Char → Option (List Piece × List Char)
  | [] => none
  | '"' :: rest => some ([], rest)
  | '\\' :: 'u' :: a :: b :: c :: d :: rest => do
    let u ← unit? a b c d
    let (ps, rest) ← pieces? rest
    pure (.unit u :: ps, rest)
  | '\\' :: e :: rest => do
    let c ← escaped? e
    let (ps, rest) ← pieces? rest
    pure (.char c :: ps, rest)
  | c :: rest =>
    if c.toNat < 0x20 then none
    else do
      let (ps, rest) ← pieces? rest
      pure (.char c :: ps, rest)

def isLead (u : Nat) : Bool := 0xD800 ≤ u && u < 0xDC00

def isTrail (u : Nat) : Bool := 0xDC00 ≤ u && u < 0xE000

/-- The characters that the parts of a string make. A lead surrogate must be followed by a trail,
and a trail must follow a lead. -/
def join? : List Piece → Option (List Char)
  | [] => some []
  | .char c :: ps => (join? ps).map (c :: ·)
  | .unit u :: ps =>
    if isLead u then
      match ps with
      | .unit v :: ps =>
        if isTrail v then
          (join? ps).map (Char.ofNat (0x10000 + (u - 0xD800) * 0x400 + (v - 0xDC00)) :: ·)
        else none
      | _ => none
    else if isTrail u then none
    else (join? ps).map (Char.ofNat u :: ·)

/-- A string from the text after its opening quotation mark. -/
def string? (cs : List Char) : Option (Token × List Char) :=
  (pieces? cs).map fun (ps, rest) => (.str ((join? ps).map String.ofList), rest)

/-! ## Tokens -/

/-- The token at the front of a text that does not begin with a blank. -/
def next? : List Char → Option (Token × List Char)
  | '\x7b' :: rest => some (.openObject, rest)
  | '\x7d' :: rest => some (.closeObject, rest)
  | '[' :: rest => some (.openArray, rest)
  | ']' :: rest => some (.closeArray, rest)
  | ':' :: rest => some (.colon, rest)
  | ',' :: rest => some (.comma, rest)
  | '"' :: rest => string? rest
  | 'n' :: 'u' :: 'l' :: 'l' :: rest => some (.null, rest)
  | 't' :: 'r' :: 'u' :: 'e' :: rest => some (.bool true, rest)
  | 'f' :: 'a' :: 'l' :: 's' :: 'e' :: rest => some (.bool false, rest)
  | cs => (numeral? cs).map fun (n, rest) => (.num n, rest)

/-! ## Every token takes up text -/

theorem length_spanDigits (cs : List Char) :
    (spanDigits cs).1.length + (spanDigits cs).2.length = cs.length := by
  induction cs with
  | nil => rfl
  | cons c cs ih =>
    simp only [spanDigits]
    split
    · simp only [List.length_cons]
      omega
    · simp

theorem length_whole {cs rest : List Char} {n : Nat} (h : whole? cs = some (n, rest)) :
    rest.length < cs.length := by
  have total := length_spanDigits cs
  unfold whole? at h
  split at h <;> simp_all
  next ds _ hne _ _ => cases ds <;> simp_all; omega

theorem length_fraction {cs rest : List Char} {ds : List Nat}
    (h : fraction? cs = some (ds, rest)) : rest.length ≤ cs.length := by
  unfold fraction? at h
  split at h
  · next cs =>
    have total := length_spanDigits cs
    split at h <;> simp_all; omega
  · simp_all

theorem length_exponentValue {cs rest : List Char} {e : Int}
    (h : exponentValue? cs = some (e, rest)) : rest.length ≤ cs.length := by
  unfold exponentValue? at h
  split at h
  next _ negative digits hs =>
    have shorter : digits.length ≤ cs.length := by
      split at hs <;> cases hs <;> simp
    have total := length_spanDigits digits
    split at h <;> simp_all; omega

theorem length_exponent {cs rest : List Char} {e : Option Int}
    (h : exponent? cs = some (e, rest)) : rest.length ≤ cs.length := by
  unfold exponent? at h
  split at h
  · obtain ⟨⟨v, r⟩, hv, heq⟩ := Option.map_eq_some_iff.1 h
    have := length_exponentValue hv
    simp_all; omega
  · obtain ⟨⟨v, r⟩, hv, heq⟩ := Option.map_eq_some_iff.1 h
    have := length_exponentValue hv
    simp_all; omega
  · simp_all

theorem length_numeral {cs rest : List Char} {n : Numeral} (h : numeral? cs = some (n, rest)) :
    rest.length < cs.length := by
  have hsign : (sign cs).2.length ≤ cs.length := by
    unfold sign; split <;> simp
  simp only [numeral?, Option.bind_eq_bind, Option.bind_eq_some_iff, Prod.exists] at h
  obtain ⟨w, r₁, hw, f, r₂, hf, e, r₃, he, hn⟩ := h
  have := length_whole hw
  have := length_fraction hf
  have := length_exponent he
  simp_all; omega

theorem length_pieces {cs rest : List Char} {ps : List Piece} (h : pieces? cs = some (ps, rest)) :
    rest.length < cs.length := by
  fun_induction pieces? cs generalizing ps rest <;>
    simp_all [Option.bind_eq_some_iff] <;> grind

theorem length_next {cs rest : List Char} {t : Token} (h : next? cs = some (t, rest)) :
    rest.length < cs.length := by
  unfold next? at h
  split at h
  case h_7 rest =>
    obtain ⟨⟨ps, r⟩, hp, heq⟩ := Option.map_eq_some_iff.1 h
    have := length_pieces hp
    simp_all; omega
  case h_11 =>
    obtain ⟨⟨n, r⟩, hn, heq⟩ := Option.map_eq_some_iff.1 h
    have := length_numeral hn
    simp_all
  all_goals simp_all; try omega

/-- The tokens of a text. -/
def scan (cs : List Char) : List Token :=
  match _found : cs.dropWhile isSpace with
  | [] => []
  | c :: rest =>
    match _taken : next? (c :: rest) with
    | none => [.junk]
    | some (t, rest') => t :: scan rest'
termination_by cs.length
decreasing_by
  have shorter := length_next _taken
  have := (List.dropWhile_suffix isSpace (l := cs)).length_le
  simp_all; omega

end Token

end SigningPreview.Json
