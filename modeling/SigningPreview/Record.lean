import SigningPreview.Chain

/-! # Records and effects

A record is one predicted effect of a transaction as it was received: a line of text, a tag, and a
data object with any number of payloads. An effect is a record that was decided on: it has one
payload or none. `Record.decode` takes the payload that counts and never fails;
`Record.decodeStrict` insists on exactly one payload and on a tag that does not contradict it. -/
namespace SigningPreview

/-- A predicted effect as it was received. -/
structure Record (c : Chain) where
  /-- The provider's own words for the effect. -/
  headline : String
  tag : Tag
  data : c.Data
  deriving DecidableEq

/-- A predicted effect with the payload that counts; none when it is not recognized. -/
structure Effect (c : Chain) where
  headline : String
  tag : Tag
  payload : Option c.Payload
  deriving DecidableEq

/-- Why a record is no effect by the strict rules. -/
inductive DecodeError where
  | noPayload (tag : Tag)
  | manyPayloads (kinds : List PayloadKind)
  | contradictingTag (tag : Tag) (kind : PayloadKind)
  deriving DecidableEq

def DecodeError.message : DecodeError → String
  | noPayload tag => "State change tagged '" ++ toString tag ++ "' carries no recognized payload"
  | manyPayloads kinds =>
    "State change carries more than one payload: " ++ PayloadKind.listNames kinds
  | contradictingTag tag kind =>
    "State change is tagged '" ++ toString tag ++ "' but carries a " ++ kind.literal ++ " payload"

namespace Effect

variable {c : Chain}

/-- The kind of the payload. -/
def kind? (e : Effect c) : Option PayloadKind := e.payload.map c.kind

/-- Where the effect is shown; an unrecognized one is not. -/
def category? (e : Effect c) : Option Category := e.kind?.map PayloadKind.category

/-- The effect of a payload, tagged with its kind. -/
def ofPayload (headline : String) (payload : Option c.Payload) : Effect c :=
  ⟨headline, match payload with | some p => .known (c.kind p) | none => .blank, payload⟩

/-- The effect as a record. -/
def toRecord (e : Effect c) : Record c := ⟨e.headline, e.tag, c.ofPayload e.payload⟩

end Effect

namespace Record

variable {c : Chain}

/-- The kinds of the payloads of a record, the one that counts first. -/
def kinds (r : Record c) : List PayloadKind := c.kinds r.data

/-- The effect of the payload that counts. -/
def decode (r : Record c) : Effect c := ⟨r.headline, r.tag, c.payload? r.data⟩

/-- The effect of the only payload, which the tag may leave open but not contradict. -/
def decodeStrict (r : Record c) : Except DecodeError (Effect c) :=
  match r.kinds with
  | [] => .error (.noPayload r.tag)
  | [kind] =>
    if r.tag.isKnown ∧ r.tag ≠ .known kind then .error (.contradictingTag r.tag kind)
    else .ok r.decode
  | kinds => .error (.manyPayloads kinds)

end Record

/-- An effect is decided again from the one payload it was written with. -/
theorem Effect.decode_toRecord {c : Chain} (e : Effect c) : e.toRecord.decode = e := by
  rw [Record.decode, toRecord, c.payload?_ofPayload]

end SigningPreview
