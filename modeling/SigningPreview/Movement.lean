/-! # Signed movements

How far a balance moves: a sign and a size of at most 64 bits. The sign is read from a word in any
mixture of cases; every word but `minus` is a plus. -/
namespace SigningPreview

inductive Sign where
  | plus
  | minus
  deriving DecidableEq

namespace Sign

/-- The sign a word denotes. -/
def ofWord (word : String) : Sign :=
  if word.toList.map Char.toLower = "minus".toList then .minus else .plus

/-- The word a sign is written as. -/
def word : Sign → String
  | .plus => "PLUS"
  | .minus => "MINUS"

theorem ofWord_word (s : Sign) : ofWord s.word = s := by
  cases s <;> decide

end Sign

/-- A balance moves by `size` units in the direction of its sign. -/
structure Movement where
  sign : Sign
  size : UInt64
  deriving DecidableEq

namespace Movement

/-- What a movement says when nothing was received. -/
def blank : Movement := ⟨.plus, 0⟩

/-- Whether the balance is meant to fall; so says the sign, also of a movement by nothing. -/
def isDecrease (m : Movement) : Bool := m.sign = .minus

/-- The movement as a number. -/
def value (m : Movement) : Int :=
  match m.sign with
  | .plus => (m.size.toNat : Int)
  | .minus => -(m.size.toNat : Int)

end Movement

end SigningPreview
