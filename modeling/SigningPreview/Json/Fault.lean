import SigningPreview.Json.Node
import SigningPreview.Text.Quoted

/-! # What can be wrong with a JSON text

Reading stops at the first fault. Either the text is no JSON from there on, or it is JSON that does
not fit what is expected; only the second kind has a message. -/
namespace SigningPreview.Json

/-- A value as a message names it. -/
inductive Found where
  | null
  | bool (b : Bool)
  | integer (i : Int)
  | floating (f : Floating)
  | string (s : String)
  | sequence
  | map
  deriving DecidableEq

def Found.text : Found → String
  | null => "null"
  | bool b => "boolean `" ++ (if b then "true" else "false") ++ "`"
  | integer i => "integer `" ++ toString i ++ "`"
  | floating f => "floating point `" ++ f.text ++ "`"
  | string s => "string " ++ Text.quoted s
  | sequence => "sequence"
  | map => "map"

/-- The first thing that is wrong with a text. -/
inductive Fault where
  /-- The text is not JSON. -/
  | notJson
  | wrongType (found : Found) (expected : String)
  | outOfRange (value : Int) (expected : String)
  | unknownVariant (name : String) (variants : List String)
  | missingField (name : String)
  | duplicateField (name : String)
  /-- A record is written as an array that ends before a field that must be there. -/
  | tooShort (length : Nat) (record : String) (fields : Nat)
  deriving DecidableEq

/-- Names as a message offers them. -/
def Fault.choice : List String → String
  | [a, b] => "`" ++ a ++ "` or `" ++ b ++ "`"
  | names => "one of " ++ ", ".intercalate (names.map fun name => "`" ++ name ++ "`")

/-- The message of a fault; nothing is said of a text that is not JSON. -/
def Fault.message? : Fault → Option String
  | notJson => none
  | wrongType found expected =>
    some ("invalid type: " ++ found.text ++ ", expected " ++ expected)
  | outOfRange value expected =>
    some ("invalid value: integer `" ++ toString value ++ "`, expected " ++ expected)
  | unknownVariant name variants =>
    some ("unknown variant `" ++ name ++ "`, expected " ++ choice variants)
  | missingField name => some ("missing field `" ++ name ++ "`")
  | duplicateField name => some ("duplicate field `" ++ name ++ "`")
  | tooShort length record fields =>
    some ("invalid length " ++ length.repr ++ ", expected struct " ++ record ++ " with "
      ++ fields.repr ++ (if fields = 1 then " element" else " elements"))

/-- How a message names a value. A construct is named by its opening bracket; a number must be in
range and the content of a string known. -/
def Node.found? : Node → Option Found
  | .null => some .null
  | .bool b => some (.bool b)
  | .num n =>
    n.number?.map fun
      | .integer i => .integer i
      | .floating f => .floating f
  | .str content => content.map .string
  | .arr _ _ => some .sequence
  | .obj _ _ => some .map
  | .missing => none

/-- The fault of a value that is not of the expected type. -/
def Node.mismatch (expected : String) (node : Node) : Fault :=
  match node.found? with
  | some found => .wrongType found expected
  | none => .notJson

end SigningPreview.Json
