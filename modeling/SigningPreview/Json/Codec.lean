import SigningPreview.Json.Fault

/-! # Codecs

A codec reads values of one type from JSON trees and writes them. The codecs here are the ones that
records are put together from. -/
namespace SigningPreview.Json

/-- Reading and writing one type. -/
structure Codec (α : Type) where
  read : Node → Except Fault α
  write : α → Node

namespace Codec

/-- The same tree read as another type. -/
def map {α β : Type} (c : Codec α) (f : α → β) (g : β → α) : Codec β where
  read node := (c.read node).map f
  write b := c.write (g b)

/-- Any string. -/
def text : Codec String where
  read
    | .str (some s) => .ok s
    | node => .error (node.mismatch "a string")
  write s := .str (some s)

def bool : Codec Bool where
  read
    | .bool b => .ok b
    | node => .error (node.mismatch "a boolean")
  write b := .bool b

/-- The natural numbers below `bound`, called `name` in messages. -/
def readBelow (bound : Nat) (name : String) : Node → Except Fault Nat
  | .num n =>
    match n.number? with
    | some (.integer i) =>
      if 0 ≤ i ∧ i < bound then .ok i.toNat else .error (.outOfRange i name)
    | _ => .error ((Node.num n).mismatch name)
  | node => .error (node.mismatch name)

def word32 : Codec UInt32 where
  read node := (readBelow UInt32.size "u32" node).map UInt32.ofNat
  write w := .num (.ofNat w.toNat)

def word64 : Codec UInt64 where
  read node := (readBelow UInt64.size "u64" node).map UInt64.ofNat
  write w := .num (.ofNat w.toNat)

/-- An array of any length. -/
def list {α : Type} (c : Codec α) : Codec (List α) where
  read
    | .arr items closed => do
      let values ← items.mapM c.read
      if closed then pure values else .error .notJson
    | node => .error (node.mismatch "a sequence")
  write values := .arr (values.map c.write) true

/-- A value that may be `null`. -/
def optional {α : Type} (c : Codec α) : Codec (Option α) where
  read
    | .null => .ok none
    | node => (c.read node).map some
  write
    | none => .null
    | some a => c.write a

/-- A value for which `null` stands when it is blank. It is never written as `null`. -/
def nullable {α : Type} (blank : α) (c : Codec α) : Codec α where
  read
    | .null => .ok blank
    | node => c.read node
  write := c.write

/-- The variant of a name. -/
def pick {α : Type} (variants : List (String × α)) (name : String) : Except Fault α :=
  match variants.lookup name with
  | some a => .ok a
  | none => .error (.unknownVariant name (variants.map Prod.fst))

/-- One of some named variants: its name, or an object with the name as only key and `null` as its
value. -/
def variant {α : Type} (variants : List (String × α)) (name : α → String) : Codec α where
  read
    | .str (some s) => pick variants s
    | .obj ((.str (some s), value) :: members) closed => do
      let a ← pick variants s
      match value with
      | .null => if closed && members.isEmpty then pure a else .error .notJson
      | value => .error (value.mismatch "unit")
    | _ => .error .notJson
  write a := .str (some (name a))

end Codec

/-- The value that a document denotes. Nothing may follow the tree. -/
def Document.read {α : Type} (c : Codec α) (d : Document) : Except Fault α := do
  let a ← c.read d.root
  if d.ends then pure a else .error .notJson

end SigningPreview.Json
