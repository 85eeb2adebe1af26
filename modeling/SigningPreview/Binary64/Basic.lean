/-! # Magnitudes in binary floating point

A magnitude is a natural number of at most 53 bits times a power of two that is no less than
`2 ^ (-1074)`: the finite values of the format binary64 without their sign. `ofRatio` rounds an
exact quotient to the nearest magnitude, ties to the even one; products and quotients round once. -/
namespace SigningPreview

/-- The number `mantissa * 2 ^ exponent`. -/
structure Magnitude where
  mantissa : Nat
  exponent : Int
  deriving DecidableEq

namespace Magnitude

/-- The exponent of the least magnitudes. -/
def minExponent : Int := -1074

/-- The exponent of the greatest magnitudes. -/
def maxExponent : Int := 971

/-- The mantissas are the natural numbers below this bound. -/
def mantissaBound : Nat := 1 <<< 53

def zero : Magnitude := ⟨0, minExponent⟩

/-- The integer nearest to `num / den`; halfway between two, the even one. -/
def nearest (num den : Nat) : Nat :=
  let q := num / den
  let r := num % den
  if den < 2 * r ∨ (den = 2 * r ∧ q % 2 = 1) then q + 1 else q

/-- `num / den` in units of `2 ^ e`, as a quotient of integers. -/
def inUnits (num den : Nat) (e : Int) : Nat × Nat :=
  (num <<< (-e).toNat, den <<< e.toNat)

/-- The exponent at which `num / den` has 53 bits, or the least exponent. -/
def unitOf (num den : Nat) : Int :=
  let e : Int := (num.log2 : Int) - den.log2 - 53
  let (n, d) := inUnits num den e
  max minExponent (if mantissaBound ≤ n / d then e + 1 else e)

/-- The magnitude nearest to `num / den`, if it is not too great for any. -/
def ofRatio (num den : Nat) : Option Magnitude :=
  if num = 0 then some zero
  else
    let e := unitOf num den
    let (n, d) := inUnits num den e
    let m := nearest n d
    let rounded : Magnitude := if m = mantissaBound then ⟨m / 2, e + 1⟩ else ⟨m, e⟩
    if maxExponent < rounded.exponent then none else some rounded

/-- A magnitude as a quotient of integers. -/
def ratio (x : Magnitude) : Nat × Nat :=
  (x.mantissa <<< x.exponent.toNat, 1 <<< (-x.exponent).toNat)

def mul (x y : Magnitude) : Option Magnitude :=
  ofRatio (x.ratio.1 * y.ratio.1) (x.ratio.2 * y.ratio.2)

def div (x y : Magnitude) : Option Magnitude :=
  ofRatio (x.ratio.1 * y.ratio.2) (x.ratio.2 * y.ratio.1)

/-- The magnitude nearest to a power of ten. -/
def powerOfTen (k : Nat) : Option Magnitude := ofRatio (Nat.pow 10 k) 1

end Magnitude

end SigningPreview
