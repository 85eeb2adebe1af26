import SigningPreview.Binary64.Shortest

/-! # Numbers in JSON texts

A `Numeral` is what was written; `Numeral.number?` is what it denotes. A numeral without fraction
and exponent that fits a 64-bit word is an integer. Every other one is read as a floating point
number: the digits that fit a 64-bit word make a significand, which is scaled by one power of ten. A
numeral too great for that has no value. -/
namespace SigningPreview.Json

/-- A number as it is written: `-12.50e+3` has whole part `12`, fraction `5, 0` and exponent `3`. -/
structure Numeral where
  negative : Bool
  whole : Nat
  /-- The digits after the point; empty when there is no point. -/
  fraction : List Nat
  exponent : Option Int
  deriving DecidableEq

/-- A floating point number that is neither infinite nor undefined. -/
structure Floating where
  negative : Bool
  magnitude : Magnitude
  deriving DecidableEq

/-- What a numeral denotes. -/
inductive Number where
  | integer (i : Int)
  | floating (f : Floating)
  deriving DecidableEq

/-- A floating point number with the fewest digits that denote it. -/
def Floating.text (f : Floating) : String :=
  (if f.negative then "-" else "") ++ f.magnitude.shortest.text

namespace Numeral

/-- The numeral of a natural number. -/
def ofNat (n : Nat) : Numeral := ⟨false, n, [], none⟩

/-- Appends digits to a significand as long as it fits a 64-bit word. The other digits are left. -/
def appendDigits (significand : Nat) : List Nat → Nat × List Nat
  | [] => (significand, [])
  | d :: ds =>
    if 10 * significand + d < UInt64.size then appendDigits (10 * significand + d) ds
    else (significand, d :: ds)

/-- `f / 10 ^ k`, in steps of at most `10 ^ 308`. -/
def scaleDown (f : Magnitude) (k : Nat) : Option Magnitude :=
  if k ≤ 308 then do f.div (← Magnitude.powerOfTen k)
  else if f.mantissa = 0 then some f
  else do scaleDown (← f.div (← Magnitude.powerOfTen 308)) (k - 308)
termination_by k

/-- `f * 10 ^ k`. -/
def scaleUp (f : Magnitude) (k : Nat) : Option Magnitude :=
  if k ≤ 308 then do f.mul (← Magnitude.powerOfTen k)
  else if f.mantissa = 0 then some f
  else none

/-- The magnitude `significand * 10 ^ power`. -/
def scale (significand : Nat) (power : Int) : Option Magnitude := do
  let f ← Magnitude.ofRatio significand 1
  if 0 ≤ power then scaleUp f power.toNat else scaleDown f (-power).toNat

/-- The magnitude of a numeral that is no integer. An exponent beyond 32 bits is out of range,
unless it makes the numeral vanish. -/
def magnitude? (n : Numeral) : Option Magnitude :=
  let (whole, spare) := appendDigits 0 ((Nat.toDigits 10 n.whole).map fun c => c.toNat - '0'.toNat)
  let (significand, ignored) := appendDigits whole n.fraction
  let start : Int := spare.length - (n.fraction.length - ignored.length : Nat)
  let exponent := n.exponent.getD 0
  if UInt32.size / 2 ≤ exponent.natAbs then
    if significand ≠ 0 ∧ 0 < exponent then none else some Magnitude.zero
  else scale significand (start + exponent)

/-- The integer a numeral denotes, if it is written as one, fits a word and is not `-0`. -/
def integer? (n : Numeral) : Option Int :=
  if n.fraction = [] ∧ n.exponent = none then
    if n.negative then
      if 0 < n.whole ∧ n.whole ≤ UInt64.size / 2 then some (-(n.whole : Int)) else none
    else if n.whole < UInt64.size then some n.whole else none
  else none

/-- What a numeral denotes; nothing if it is out of range. -/
def number? (n : Numeral) : Option Number :=
  match n.integer? with
  | some i => some (.integer i)
  | none => n.magnitude?.map fun m => .floating ⟨n.negative, m⟩

end Numeral

end SigningPreview.Json
