import SigningPreview.Json.Codec

/-! # Records

A record is written as an object, its fields in a fixed order. It is read from an object with its
fields in any order, among members of other names, or from an array of its fields in order. A field
that may be left out has a blank value. -/
namespace SigningPreview.Json

/-- A named part of a record. -/
structure Field (α : Type) where
  name : String
  codec : Codec α
  /-- The value when the field is left out; a field without one must be there. -/
  blank : Option α
  /-- Whether a value is written; the others are left out. -/
  isWritten : α → Bool

namespace Field

/-- A field that must be there. -/
def required {α : Type} (name : String) (codec : Codec α) : Field α :=
  ⟨name, codec, none, fun _ => true⟩

/-- A field that may be left out, but not be `null`. -/
def withDefault {α : Type} (name : String) (codec : Codec α) (blank : α) : Field α :=
  ⟨name, codec, some blank, fun _ => true⟩

/-- A field that may be left out or `null`. -/
def nullable {α : Type} (name : String) (codec : Codec α) (blank : α) : Field α :=
  withDefault name (codec.nullable blank) blank

/-- A field with an optional value, written as `null` when there is none. -/
def optional {α : Type} (name : String) (codec : Codec α) : Field (Option α) :=
  withDefault name codec.optional none

/-- A field with an optional value, left out when there is none. -/
def omitted {α : Type} (name : String) (codec : Codec α) : Field (Option α) :=
  ⟨name, codec.optional, some none, Option.isSome⟩

end Field

/-- The fields of a record in order. The first index is the type of their values together, the
second that of the values read so far. -/
inductive Fields : Type → Type → Type 1 where
  | nil : Fields Unit Unit
  | cons {α β σ : Type} (field : Field α) (rest : Fields β σ) : Fields (α × β) (Option α × σ)

namespace Fields

variable {γ σ : Type}

def names {γ σ : Type} : Fields γ σ → List String
  | nil => []
  | cons field rest => field.name :: rest.names

/-- Nothing read so far. -/
def unread {γ σ : Type} : Fields γ σ → σ
  | nil => ()
  | cons _ rest => (none, rest.unread)

/-- Takes one member of an object. A member of another name is passed over. -/
def put {γ σ : Type} (fields : Fields γ σ) (key : String) (value : Node) (slots : σ) :
    Except Fault σ :=
  match fields, slots with
  | nil, () => if value.intact then .ok () else .error .notJson
  | cons field rest, (slot, slots) =>
    if key = field.name then
      match slot with
      | some _ => .error (.duplicateField key)
      | none => (field.codec.read value).map fun a => (some a, slots)
    else (rest.put key value slots).map fun slots => (slot, slots)

/-- Takes the members of an object one by one. -/
def putAll (fields : Fields γ σ) : List (Node × Node) → σ → Except Fault σ
  | [], slots => .ok slots
  | (.str (some key), value) :: members, slots => do
    let slots ← fields.put key value slots
    putAll fields members slots
  | _ :: _, _ => .error .notJson

/-- The values of all fields, blank where a field was left out. -/
def fill {γ σ : Type} (fields : Fields γ σ) (slots : σ) : Except Fault γ :=
  match fields, slots with
  | nil, () => .ok ()
  | cons field rest, (slot, slots) =>
    match slot.or field.blank with
    | some a => (rest.fill slots).map fun values => (a, values)
    | none => .error (.missingField field.name)

/-- Reads the members of an object. -/
def readMembers (fields : Fields γ σ) (members : List (Node × Node)) (closed : Bool) :
    Except Fault γ := do
  let slots ← fields.putAll members fields.unread
  if closed then fields.fill slots else .error .notJson

/-- Reads the items of an array; `tooShort i` is the fault when it ends before the `i`-th field. -/
def readItems {γ σ : Type} (tooShort : Nat → Fault) (closed : Bool) (fields : Fields γ σ)
    (index : Nat) (items : List Node) : Except Fault γ :=
  match fields, items with
  | nil, [] => if closed then .ok () else .error .notJson
  | nil, _ :: _ => .error .notJson
  | cons field rest, item :: items => do
    let a ← field.codec.read item
    let values ← rest.readItems tooShort closed (index + 1) items
    pure (a, values)
  | cons field rest, [] =>
    if closed then
      match field.blank with
      | some a => (rest.readItems tooShort closed (index + 1) []).map fun values => (a, values)
      | none => .error (tooShort index)
    else .error .notJson

/-- The members that values are written as. -/
def write {γ σ : Type} (fields : Fields γ σ) (values : γ) : List (Node × Node) :=
  match fields, values with
  | nil, () => []
  | cons field rest, (a, values) =>
    if field.isWritten a then (.str (some field.name), field.codec.write a) :: rest.write values
    else rest.write values

end Fields

/-- How values of a type are written as records. -/
structure Layout (ρ : Type) where
  {γ σ : Type}
  /-- What messages call the record. -/
  name : String
  fields : Fields γ σ
  ofValues : γ → ρ
  toValues : ρ → γ

namespace Layout

variable {ρ : Type}

def size (l : Layout ρ) : Nat := l.fields.names.length

def read (l : Layout ρ) : Node → Except Fault ρ
  | .obj members closed => (l.fields.readMembers members closed).map l.ofValues
  | .arr items closed =>
    (l.fields.readItems (fun i => .tooShort i l.name l.size) closed 0 items).map l.ofValues
  | node => .error (node.mismatch ("struct " ++ l.name))

/-- Records of this layout. -/
def codec (l : Layout ρ) : Codec ρ where
  read := l.read
  write r := .obj (l.fields.write (l.toValues r)) true

end Layout

end SigningPreview.Json
