import SigningPreview.Text.Blank

/-! # Amounts

An amount arrives as text and is read when its value is needed, so that one unreadable amount does
not spoil the rest of a response. The value is the number that the decimal digits between the blanks
at both ends denote; nothing but ASCII digits is read. -/
namespace SigningPreview

/-- An amount as it was received. -/
structure Amount where
  text : String
  deriving DecidableEq

/-- Why an amount has no value. -/
inductive AmountError where
  /-- The text is blank. -/
  | empty
  /-- The text holds something other than ASCII digits. -/
  | notAnInteger (text : String)
  deriving DecidableEq

def AmountError.message : AmountError → String
  | .empty => "Amount is empty"
  | .notAnInteger text => "Amount '" ++ text ++ "' is not a non-negative decimal integer"

namespace Amount

/-- The amount written with the decimal digits of a number. -/
def ofNat (n : Nat) : Amount := ⟨n.repr⟩

/-- An amount as traces show it. -/
def inspect (a : Amount) : String := "amount(" ++ a.text ++ ")"

/-- The number an amount denotes. -/
def value (a : Amount) : Except AmountError Nat :=
  match Text.trim a.text.toList with
  | [] => .error .empty
  | c :: cs =>
    if (c :: cs).all Char.isDigit then .ok (Nat.ofDigitChars 10 (c :: cs) 0)
    else .error (.notAnInteger a.text)

/-- The least allowance that counts as unlimited: `2 ^ 256 - 1` without its last twenty digits. -/
def unlimitedFrom : Nat := 1157920892373161954235709850086879078532699846656405640394

/-- Whether a value counts as an unlimited allowance. -/
def isUnlimited (n : Nat) : Bool := unlimitedFrom ≤ n

end Amount

/-- A quantity before and after a transaction: a balance, or what a spender may take. -/
structure BalanceChange where
  before : Amount
  after : Amount
  deriving DecidableEq

namespace BalanceChange

/-- What a balance change says when nothing was received. -/
def blank : BalanceChange := ⟨⟨""⟩, ⟨""⟩⟩

/-- Both values, or the error of the first that cannot be read. -/
def values (b : BalanceChange) : Except AmountError (Nat × Nat) := do
  let before ← b.before.value
  let after ← b.after.value
  pure (before, after)

/-- By how much the quantity grows; negative when it shrinks. -/
def delta (b : BalanceChange) : Except AmountError Int :=
  b.values.map fun (before, after) => (after : Int) - before

/-- The error of the first side that cannot be read, if any. -/
def check (b : BalanceChange) : Except AmountError Unit :=
  b.values.map fun _ => ()

end BalanceChange

end SigningPreview
