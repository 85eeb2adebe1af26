/-! # Positional numerals

`Radix.digits b n` writes a number in base `b` with its most significant digit first and no leading
zero; `Radix.value b` reads such a numeral, leading zeros included. -/
namespace SigningPreview.Radix

/-- The number a list of digits denotes, most significant digit first. -/
def value (base : Nat) (ds : List Nat) : Nat := ds.foldl (fun n d => base * n + d) 0

/-- The digits of a number from the least significant on. -/
def lowFirst (base n : Nat) : List Nat :=
  if _h : 2 ≤ base ∧ 0 < n then n % base :: lowFirst base (n / base) else []
termination_by n
decreasing_by exact Nat.div_lt_self _h.2 _h.1

/-- The digits of a number, most significant first; zero has none. -/
def digits (base n : Nat) : List Nat := (lowFirst base n).reverse

end SigningPreview.Radix
