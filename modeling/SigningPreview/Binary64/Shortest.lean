import SigningPreview.Binary64.Basic

/-! # The shortest numeral of a magnitude

Of all decimal numerals that round to a magnitude, the one with the fewest digits is on the coarsest
decimal grid that has a point among the numbers rounding to it. The search goes from coarse grids to
fine ones and looks at the two neighbours of the magnitude on each. -/
namespace SigningPreview.Magnitude

/-- A decimal numeral `digits * 10 ^ power`. -/
structure Numeral where
  digits : Nat
  power : Int
  deriving DecidableEq

/-- The numbers that round to a magnitude, in quarters of its last bit: they reach half a bit up,
and half a bit down, where the bits below a power of two are half as wide. -/
def bounds (x : Magnitude) : Nat × Nat :=
  let m := 4 * x.mantissa
  (if x.mantissa = mantissaBound / 2 ∧ minExponent < x.exponent then m - 1 else m - 2, m + 2)

/-- The multiple of `10 ^ power` nearest to a magnitude among those that round to it. -/
def onGrid? (x : Magnitude) (power : Int) : Option Numeral :=
  let quarter := x.exponent - 2
  -- one step of the grid is `step / unit` quarters of the last bit
  let step := Nat.pow 10 power.toNat <<< (-quarter).toNat
  let unit := Nat.pow 10 (-power).toNat <<< quarter.toNat
  let (low, high) := x.bounds
  let inside (c : Nat) : Bool :=
    if x.mantissa % 2 = 0 then low * unit ≤ c * step && c * step ≤ high * unit
    else low * unit < c * step && c * step < high * unit
  let exact := 4 * x.mantissa * unit
  let below := exact / step
  let downIsNearer : Bool :=
    2 * (exact % step) < step || (2 * (exact % step) = step && below % 2 = 0)
  if inside below && (downIsNearer || !inside (below + 1)) then some ⟨below, power⟩
  else if inside (below + 1) then some ⟨below + 1, power⟩
  else none

/-- The first grid from `power` down that has a point, over at most `grids` of them. -/
def searchGrids (x : Magnitude) : Nat → Int → Numeral
  | 0, power => ⟨0, power⟩
  | grids + 1, power =>
    match x.onGrid? power with
    | some n => n
    | none => searchGrids x grids (power - 1)

/-- The shortest numeral that rounds to a magnitude. The coarsest grid has `10 ^ 309`; on the
finest, that of `10 ^ (-1076)`, every magnitude lies itself. -/
def shortest (x : Magnitude) : Numeral :=
  if x.mantissa = 0 then ⟨0, 0⟩ else x.searchGrids 1386 309

/-- Numerals whose first digit stands for a power of ten in this range are written out. -/
def writtenOut (power : Int) : Bool := -5 ≤ power && power ≤ 15

/-- A numeral with a point and at least one digit after it; a very great or small one as its digits,
a point after the first, and a power of ten with its sign. -/
def Numeral.text (n : Numeral) : String :=
  let ds := Nat.toDigits 10 n.digits
  let top : Int := n.power + ds.length - 1
  String.ofList <|
    if writtenOut top then
      if top < 0 then '0' :: '.' :: (List.replicate (-top - 1).toNat '0' ++ ds)
      else if 0 ≤ n.power then ds ++ List.replicate n.power.toNat '0' ++ ['.', '0']
      else ds.take (top.toNat + 1) ++ '.' :: ds.drop (top.toNat + 1)
    else
      let fraction := ds.drop 1
      ds.take 1 ++ (if fraction = [] then [] else '.' :: fraction)
        ++ 'e' :: (if top < 0 then '-' else '+') :: Nat.toDigits 10 top.natAbs

end SigningPreview.Magnitude
