import SigningPreview.Json.Token

/-! # JSON trees as far as they were written

A `Node` is the tree that a list of tokens spells. Text that stops being JSON halfway still makes a
tree: what was complete stands in it, the constructs that were open are marked as not closed, and
nothing stands for the rest. A reader that goes through such a tree from left to right meets what
was written before it meets the place where the text broke off. -/
namespace SigningPreview.Json

/-- A JSON value, or the beginning of one. -/
inductive Node where
  | null
  | bool (b : Bool)
  | num (n : Numeral)
  /-- A string; no content when its escapes spell half of a surrogate pair. -/
  | str (content : Option String)
  | arr (items : List Node) (closed : Bool)
  /-- A member is whatever stands in the place of a key and whatever stands for its value. -/
  | obj (members : List (Node × Node)) (closed : Bool)
  /-- No value begins where one is due. -/
  | missing

namespace Node

/-! ## Intact trees -/

mutual

/-- Whether a tree was written to its end by the rules of JSON. -/
def intact : Node → Bool
  | null | bool _ | num _ | str _ => true
  | arr items closed => closed && intactItems items
  | obj members closed => closed && intactMembers members
  | missing => false

def intactItems : List Node → Bool
  | [] => true
  | item :: items => item.intact && intactItems items

/-- Keys are strings. -/
def intactMembers : List (Node × Node) → Bool
  | [] => true
  | (str _, value) :: members => value.intact && intactMembers members
  | _ :: _ => false

end

/-! ## Assembly from tokens -/

/-- A construct that is open: what it holds so far, last part first. -/
inductive Frame where
  | items (before : List Node)
  /-- In an object, where a key is due. -/
  | key (before : List (Node × Node))
  /-- In an object, where the value of a key is due. -/
  | value (before : List (Node × Node)) (key : Node)

/-- A construct that breaks off, with the part in it that was begun last. -/
def Frame.breakOff : Frame → Option Node → Node
  | items before, last => arr ((last.toList ++ before).reverse) false
  | key before, some last => obj (((last, missing) :: before).reverse) false
  | key before, none => obj before.reverse false
  | value before k, last => obj (((k, last.getD missing) :: before).reverse) false

/-- The tree of which all open constructs break off. -/
def breakOff (last : Option Node) (frames : List Frame) : Option Node :=
  frames.foldl (fun last frame => some (frame.breakOff last)) last

/-- What may come next in a text. -/
inductive Due where
  /-- A value. -/
  | value
  /-- The first item of an array, or its end. -/
  | itemOrEnd
  /-- The first key of an object, or its end. -/
  | keyOrEnd
  /-- What follows this value in the construct around it. -/
  | after (node : Node)

/-- The value that a token is by itself. -/
def ofToken? : Token → Option Node
  | .null => some null
  | .bool b => some (bool b)
  | .num n => some (num n)
  | .str content => some (str content)
  | _ => none

/-- A token where a value is due: what is due after it, and the constructs open then. -/
def begin? (frames : List Frame) : Token → Option (Due × List Frame)
  | .openArray => some (.itemOrEnd, .items [] :: frames)
  | .openObject => some (.keyOrEnd, .key [] :: frames)
  | token => (ofToken? token).map fun node => (.after node, frames)

/-- A token after a value: what is due after it, and the constructs open then. -/
def continue? (node : Node) : List Frame → Token → Option (Due × List Frame)
  | .items before :: frames, .comma => some (.value, .items (node :: before) :: frames)
  | .items before :: frames, .closeArray =>
    some (.after (arr (node :: before).reverse true), frames)
  | .key before :: frames, .colon => some (.value, .value before node :: frames)
  | .value before key :: frames, .comma => some (.value, .key ((key, node) :: before) :: frames)
  | .value before key :: frames, .closeObject =>
    some (.after (obj ((key, node) :: before).reverse true), frames)
  | _, _ => none

/-- What one token does. -/
def step? (due : Due) (frames : List Frame) (token : Token) : Option (Due × List Frame) :=
  match due, frames, token with
  | .after node, frames, token => continue? node frames token
  | .itemOrEnd, .items _ :: frames, .closeArray => some (.after (arr [] true), frames)
  | .keyOrEnd, .key _ :: frames, .closeObject => some (.after (obj [] true), frames)
  | _, frames, token => begin? frames token

/-- The value that was begun last when the text breaks off. -/
def Due.begun : Due → Option Node
  | .after node => some node
  | _ => none

/-- The tree that tokens spell, given what is open, and the tokens after the tree. -/
def assemble : List Token → Due → List Frame → Option Node × List Token
  | tokens, .after node, [] => (some node, tokens)
  | [], due, frames => (breakOff due.begun frames, [])
  | token :: tokens, due, frames =>
    match step? due frames token with
    | some (due, frames) => assemble tokens due frames
    | none => (breakOff due.begun frames, token :: tokens)

/-- The tree that tokens spell, and the tokens after it. -/
def ofTokens (tokens : List Token) : Node × List Token :=
  let (node, rest) := assemble tokens .value []
  (node.getD missing, rest)

end Node

/-- A JSON text: one tree, and whether anything follows it. -/
structure Document where
  root : Node
  /-- Nothing but blanks follows the tree. -/
  ends : Bool

/-- The document that a text is. -/
def Document.ofText (text : String) : Document :=
  let (root, rest) := Node.ofTokens (Token.scan text.toList)
  ⟨root, rest.isEmpty⟩

end SigningPreview.Json
