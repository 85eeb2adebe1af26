import SigningPreview.Radix

/-! # Tokens by name and number

A token of a collection is shown by the collection's name and the token's number in decimal, however
the number was spelled. A name that mentions the number already is shown alone. -/
namespace SigningPreview.Label

/-- The value of a digit in a base of at most thirty-six. -/
def digitValue? (base : Nat) (c : Char) : Option Nat :=
  let v :=
    if '0' ≤ c ∧ c ≤ '9' then c.toNat - '0'.toNat
    else if 'a' ≤ c ∧ c ≤ 'z' then c.toNat - 'a'.toNat + 10
    else if 'A' ≤ c ∧ c ≤ 'Z' then c.toNat - 'A'.toNat + 10
    else base
  if v < base then some v else none

/-- A numeral without the plus sign it may begin with. -/
def dropPlus : List Char → List Char
  | '+' :: rest => rest
  | cs => cs

/-- The number that digits denote. Underscores may stand between and after the digits. -/
def ofDigits? (base : Nat) (cs : List Char) : Option Nat :=
  match dropPlus cs with
  | [] => none
  | '_' :: _ => none
  | c :: rest =>
    (((c :: rest).filter (· ≠ '_')).mapM (digitValue? base)).map (Radix.value base)

/-- The number of a token: hexadecimal after `0x`, otherwise decimal. -/
def tokenNumber? : List Char → Option Nat
  | '0' :: 'x' :: rest => ofDigits? 16 rest
  | cs => ofDigits? 10 cs

/-- Whether `part` stands somewhere in a text. -/
def occursIn (part : List Char) : List Char → Bool
  | [] => part.isEmpty
  | c :: cs => part.isPrefixOf (c :: cs) || occursIn part cs

/-- A name followed by a number, unless the name holds the number. -/
def numbered (name number : String) : String :=
  if occursIn number.toList name.toList then name else name ++ " #" ++ number

/-- The label of a token. An identifier that is no number is shown as it is, an empty one not at
all. -/
def token (name id : String) : String :=
  match tokenNumber? id.toList with
  | some n => numbered name n.repr
  | none => if id = "" then name else numbered name id

end SigningPreview.Label
