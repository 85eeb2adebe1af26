import SigningPreview.Amount

/-! # Quantities and allowances in words

A quantity counts the smallest units of an asset; its label shows whole units with at most six
decimal places, cut off and never rounded up. The number of decimals comes from outside and may be
huge, so only zeros that can be shown are ever written. -/
namespace SigningPreview.Label

/-- How many decimal places are shown. -/
def precision : Nat := 6

/-- The list without the zeros at its end. -/
def dropFinalZeros (cs : List Char) : List Char := (cs.reverse.dropWhile (· = '0')).reverse

/-- The places after the point that are shown of a number with `decimals` decimals: the digits that
stand there, with zeros for those the number is too short to have. -/
def places (decimals : Nat) (digits : List Char) : List Char :=
  dropFinalZeros
    ((List.replicate (min precision (decimals - digits.length)) '0'
      ++ digits.drop (digits.length - decimals)).take precision)

/-- The digits before the point; a number that is too short to have any has a zero. -/
def whole (decimals : Nat) (digits : List Char) : List Char :=
  if digits.length ≤ decimals then ['0'] else digits.take (digits.length - decimals)

/-- `n / 10 ^ decimals`, cut off after six places. -/
def numeral (n decimals : Nat) : List Char :=
  let digits := Nat.toDigits 10 n
  match places decimals digits with
  | [] => whole decimals digits
  | shown => whole decimals digits ++ '.' :: shown

/-- A numeral and the symbol it counts, if there is one. -/
def withSymbol (numeral : List Char) (symbol : String) : String :=
  String.ofList numeral ++ if symbol = "" then "" else " " ++ symbol

/-- A quantity of `n` smallest units. -/
def quantity (n decimals : Nat) (symbol : String) : String :=
  withSymbol (numeral n decimals) symbol

/-- What a spender may take. An operator of a whole collection has no limit once the amount is
positive. -/
def allowance (amount : Amount) (decimals : Nat) (symbol : String) (operator : Bool) :
    Except AmountError String := do
  let n ← amount.value
  if Amount.isUnlimited n || (operator && n != 0) then
    pure (String.ofList (Text.trimEnd ("Unlimited ".toList ++ symbol.toList)))
  else
    pure (quantity n decimals symbol)

end SigningPreview.Label
