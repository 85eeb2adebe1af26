/-! # Sets of characters given by ranges of code points

`CharSet` holds the data of a Unicode property: closed ranges, in ascending order. Membership is
decidable and reads the ranges one by one. -/
namespace SigningPreview.Text

/-- A set of characters, as closed ranges of code points. -/
structure CharSet where
  ranges : List (Nat × Nat)

/-- A character is in the set when one of the ranges holds its code point. -/
def CharSet.contains (s : CharSet) (c : Char) : Bool :=
  s.ranges.any fun (low, high) => low ≤ c.toNat && c.toNat ≤ high

theorem CharSet.contains_iff (s : CharSet) (c : Char) :
    s.contains c = true ↔ ∃ r ∈ s.ranges, r.1 ≤ c.toNat ∧ c.toNat ≤ r.2 := by
  simp [CharSet.contains, List.any_eq_true]

end SigningPreview.Text
