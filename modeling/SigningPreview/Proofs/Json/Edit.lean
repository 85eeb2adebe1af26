import Mathlib.Logic.Relation
import SigningPreview.Proofs.Json.Restore
import SigningPreview.Proofs.Json.Swap

/-! # Edits that a reader does not notice

An edit changes the members of one object somewhere in a document. What the object is for depends on
where it stands, so the relation `Edit` descends from the root along the codec that reads the
document: into the fields of records, the items of lists, and values that may be `null`. What may be
done to the members is given by a rule, which knows the layout of the object. Main statement: when a
rule keeps what the members of every object match, then a document that is read successfully is read
as the same value after any number of edits (`Document.Edited.read`). -/
namespace SigningPreview.Json

/-- What may be done to the members of an object of a layout. -/
abbrev Rule : Type 1 := ⦃ρ : Type⦄ → Layout ρ → List (Node × Node) → List (Node × Node) → Prop

/-- The new members still match what the old ones matched. -/
def Rule.Faithful (rule : Rule) : Prop :=
  ∀ {ρ : Type} {l : Layout ρ} {members members' : List (Node × Node)} {values : l.γ},
    rule l members members' → l.fields.Matches members values → l.fields.Matches members' values

/-- One edit somewhere in a tree that a codec is to read. -/
inductive Edit (rule : Rule) : {α : Type} → Codec α → Node → Node → Prop
  | members {ρ : Type} {l : Layout ρ} {members members' : List (Node × Node)}
    (h : rule l members members') (closed : Bool) :
    Edit rule l.codec (.obj members closed) (.obj members' closed)
  | field {ρ α : Type} {l : Layout ρ} {f : Field α} (place : l.fields.Place f) {n n' m m' : Node}
    (swap : Node.Swap f.name place.index n n' m m') (h : Edit rule f.codec n n') :
    Edit rule l.codec m m'
  | item {α : Type} {c : Codec α} {n n' : Node} (before after : List Node) (closed : Bool)
    (h : Edit rule c n n') :
    Edit rule c.list (.arr (before ++ n :: after) closed) (.arr (before ++ n' :: after) closed)
  | optional {α : Type} {c : Codec α} {n n' : Node} (h : Edit rule c n n') :
    Edit rule c.optional n n'
  | nullable {α : Type} {c : Codec α} (blank : α) {n n' : Node} (h : Edit rule c n n') :
    Edit rule (c.nullable blank) n n'
  | map {α β : Type} {c : Codec α} (f : α → β) (g : β → α) {n n' : Node} (h : Edit rule c n n') :
    Edit rule (c.map f g) n n'

/-- The second document is the first one after any number of edits. -/
def Document.Edited {α : Type} (rule : Rule) (c : Codec α) (d d' : Document) : Prop :=
  Relation.ReflTransGen (Edit rule c) d.root d'.root ∧ d'.ends = d.ends

/-! ## Reading -/

theorem Node.Swap.ne_null {name : String} {index : Nat} {n n' m m' : Node}
    (h : Node.Swap name index n n' m m') : m ≠ .null ∧ m' ≠ .null := by
  cases h <;> exact ⟨nofun, nofun⟩

namespace Edit

variable {rule : Rule} {α : Type} {c : Codec α} {n n' : Node}

/-- Only objects and arrays are edited. -/
theorem ne_null (h : Edit rule c n n') : n ≠ .null ∧ n' ≠ .null := by
  induction h with
  | members | item => exact ⟨nofun, nofun⟩
  | field _ swap => exact swap.ne_null
  | optional _ ih | nullable _ _ ih | map _ _ _ ih => exact ih

/-- One edit is not noticed. The induction is on the way from the root to the object. -/
theorem read (faithful : rule.Faithful) (h : Edit rule c n n') {a : α} (ha : c.read n = .ok a) :
    c.read n' = .ok a := by
  induction h with
  | members h closed =>
    obtain ⟨values, hvalues, rfl⟩ := exists_of_map_eq_ok ha
    obtain ⟨hclosed, hmatches⟩ := Fields.readMembers_eq_ok_iff.1 hvalues
    change (Fields.readMembers _ _ closed).map _ = _
    rw [Fields.readMembers_eq_ok_iff.2 ⟨hclosed, faithful h hmatches⟩]
    rfl
  | @field ρ α l f place n n' m m' swap _ ih =>
    obtain ⟨values, rfl, hn, hswap⟩ := Layout.read_swap place swap ha
    rw [hswap, ih hn]
    exact congrArg (fun values => Except.ok (l.ofValues values)) (place.set_get values)
  | item before after closed _ ih =>
    obtain ⟨xs, a, ys, rfl, hn, hswap⟩ := Codec.read_list_swap ha
    exact hswap a (ih hn)
  | optional h ih =>
    rw [Field.read_optional h.ne_null.1] at ha
    obtain ⟨b, hb, rfl⟩ := exists_of_map_eq_ok ha
    rw [Field.read_optional h.ne_null.2, ih hb]
    rfl
  | nullable blank h ih =>
    rw [Field.read_nullable h.ne_null.1] at ha
    rw [Field.read_nullable h.ne_null.2, ih ha]
  | map f g h ih =>
    obtain ⟨b, hb, rfl⟩ := exists_of_map_eq_ok ha
    exact congrArg (Except.map f) (ih hb)

/-- Any number of edits are not noticed. -/
theorem read_all (faithful : rule.Faithful) (edits : Relation.ReflTransGen (Edit rule c) n n')
    {a : α} (ha : c.read n = .ok a) : c.read n' = .ok a := by
  induction edits with
  | refl => exact ha
  | tail _ edit ih => exact edit.read faithful ih

end Edit

theorem Document.Edited.read {rule : Rule} (faithful : rule.Faithful) {α : Type} {c : Codec α}
    {d d' : Document} (h : Document.Edited rule c d d') {a : α} (ha : d.read c = .ok a) :
    d'.read c = .ok a := by
  obtain ⟨edits, ends⟩ := h
  obtain ⟨b, hb, ha⟩ := exists_of_bind_eq_ok ha
  rw [Document.read, Edit.read_all faithful edits hb, ends]
  exact ha

end SigningPreview.Json
