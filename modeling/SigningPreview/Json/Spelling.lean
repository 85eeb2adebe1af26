import SigningPreview.Json.Node

/-! # JSON trees as text

`Node.tokens` lists the tokens that spell a tree, `Token.spell` the characters of a token. A tree is
written compactly, token after token, or laid out with one member or item a line. -/
namespace SigningPreview.Json

/-! ## Tokens -/

namespace Token

/-- The lower-case hexadecimal digits of a number of sixteen bits. -/
def fourDigits (u : Nat) : List Char :=
  [Nat.digitChar (u / 4096 % 16), Nat.digitChar (u / 256 % 16), Nat.digitChar (u / 16 % 16),
    Nat.digitChar (u % 16)]

/-- A character inside a string. -/
def escape (c : Char) : List Char :=
  if c = '"' then ['\\', '"']
  else if c = '\\' then ['\\', '\\']
  else if c = '\x08' then ['\\', 'b']
  else if c = '\x0c' then ['\\', 'f']
  else if c = '\n' then ['\\', 'n']
  else if c = '\r' then ['\\', 'r']
  else if c = '\t' then ['\\', 't']
  else if c.toNat < 0x20 then '\\' :: 'u' :: fourDigits c.toNat
  else [c]

/-- A string in quotation marks. A string whose content is unknown is spelled as half a pair. -/
def spellString : Option String → List Char
  | some s => '"' :: s.toList.flatMap escape ++ ['"']
  | none => '"' :: '\\' :: 'u' :: fourDigits 0xD800 ++ ['"']

def spellNumeral (n : Numeral) : List Char :=
  (if n.negative then ['-'] else []) ++ Nat.toDigits 10 n.whole
    ++ (if n.fraction = [] then [] else '.' :: n.fraction.map Nat.digitChar)
    ++ match n.exponent with
      | none => []
      | some e => 'e' :: (if e < 0 then ['-'] else []) ++ Nat.toDigits 10 e.natAbs

/-- The characters of a token. -/
def spell : Token → List Char
  | openObject => ['\x7b']
  | closeObject => ['\x7d']
  | openArray => ['[']
  | closeArray => [']']
  | colon => [':']
  | comma => [',']
  | null => ['n', 'u', 'l', 'l']
  | bool true => ['t', 'r', 'u', 'e']
  | bool false => ['f', 'a', 'l', 's', 'e']
  | num n => spellNumeral n
  | str content => spellString content
  | junk => []

end Token

/-! ## Trees -/

namespace Node

mutual

/-- The tokens that spell a tree. -/
def tokens : Node → List Token
  | null => [.null]
  | bool b => [.bool b]
  | num n => [.num n]
  | str content => [.str content]
  | arr items closed => .openArray :: itemTokens items ++ if closed then [.closeArray] else []
  | obj members closed =>
    .openObject :: memberTokens members ++ if closed then [.closeObject] else []
  | missing => []

def itemTokens : List Node → List Token
  | [] => []
  | [item] => item.tokens
  | item :: items => item.tokens ++ .comma :: itemTokens items

def memberTokens : List (Node × Node) → List Token
  | [] => []
  | [(key, value)] => key.tokens ++ .colon :: value.tokens
  | (key, value) :: members =>
    key.tokens ++ .colon :: value.tokens ++ .comma :: memberTokens members

end

/-- A tree without blanks. -/
def compact (node : Node) : String := String.ofList (node.tokens.flatMap Token.spell)

/-- The beginning of a line at some depth: two spaces a level. -/
def newLine (depth : Nat) : List Char := '\n' :: List.replicate (2 * depth) ' '

mutual

/-- A tree with one item or member a line. -/
def laidOut (depth : Nat) : Node → List Char
  | arr [] true => ['[', ']']
  | arr items closed =>
    '[' :: laidOutItems (depth + 1) items
      ++ if closed then newLine depth ++ [']'] else []
  | obj [] true => ['\x7b', '\x7d']
  | obj members closed =>
    '\x7b' :: laidOutMembers (depth + 1) members
      ++ if closed then newLine depth ++ ['\x7d'] else []
  | node => node.tokens.flatMap Token.spell

def laidOutItems (depth : Nat) : List Node → List Char
  | [] => []
  | [item] => newLine depth ++ item.laidOut depth
  | item :: items => newLine depth ++ item.laidOut depth ++ ',' :: laidOutItems depth items

def laidOutMembers (depth : Nat) : List (Node × Node) → List Char
  | [] => []
  | [(key, value)] => newLine depth ++ key.laidOut depth ++ ':' :: ' ' :: value.laidOut depth
  | (key, value) :: members =>
    newLine depth ++ key.laidOut depth ++ ':' :: ' ' :: value.laidOut depth
      ++ ',' :: laidOutMembers depth members

end

/-- A tree laid out over lines. -/
def pretty (node : Node) : String := String.ofList (node.laidOut 0)

end Node

end SigningPreview.Json
