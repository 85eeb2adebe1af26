/-! # Abbreviated addresses

An address of more than ten characters is shown by its first six and its last four. -/
namespace SigningPreview.Label

/-- The abbreviation of a text by its characters. -/
def abbreviateChars (cs : List Char) : List Char :=
  if cs.length ≤ 10 then cs
  else cs.take 6 ++ ['.', '.', '.'] ++ cs.drop (cs.length - 4)

def abbreviate (address : String) : String := String.ofList (abbreviateChars address.toList)

end SigningPreview.Label
