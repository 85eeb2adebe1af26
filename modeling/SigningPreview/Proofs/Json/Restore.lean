import SigningPreview.Json.Record
import SigningPreview.Proofs.Json.Tree
import SigningPreview.Proofs.Lists

/-! # Codecs that read what they wrote

A codec restores a value when it reads it back from the tree it writes for it. The property is one
of single values, since not every value of a type need be one that reading can give, and it is
lifted from the parts of a value to the whole: over lists, optional values and named fields. A
record is restored when its fields are, provided that no two of them share a name
(`Layout.restores`), and a restored value survives being written as a text
(`Codec.Restores.document`). -/
namespace SigningPreview.Json

/-- The value is read from the tree it is written as. That tree is never `null`, so that `null` can
stand for a value that is not there. -/
structure Codec.Restores {α : Type} (c : Codec α) (a : α) : Prop where
  read_write : c.read (c.write a) = .ok a
  whole : (c.write a).Whole
  ne_null : c.write a ≠ .null

/-- A field is restored when its value is written and read back, or left out and blank. -/
structure Field.Restores {α : Type} (f : Field α) (a : α) : Prop where
  read_write : f.isWritten a = true → f.codec.read (f.codec.write a) = .ok a
  whole : f.isWritten a = true → (f.codec.write a).Whole
  blank : f.isWritten a = false → f.blank = some a

/-! ## Codecs -/

namespace Codec

variable {α β : Type}

theorem Restores.map {c : Codec α} {f : α → β} {g : β → α} {b : β} (h : c.Restores (g b))
    (hfg : f (g b) = b) : (c.map f g).Restores b where
  read_write := by
    change (c.read (c.write (g b))).map f = .ok b
    rw [h.read_write]
    exact congrArg Except.ok hfg
  whole := h.whole
  ne_null := h.ne_null

theorem text_restores (s : String) : text.Restores s := ⟨rfl, .str _, nofun⟩

theorem bool_restores (b : Bool) : bool.Restores b := ⟨rfl, .bool b, nofun⟩

theorem readBelow_ofNat {n bound : Nat} (hn : n < bound) (hbound : bound ≤ UInt64.size)
    (name : String) : readBelow bound name (.num (.ofNat n)) = .ok n := by
  have word : n < UInt64.size := Nat.lt_of_lt_of_le hn hbound
  have value : (Numeral.ofNat n).number? = some (.integer n) := by
    simp [Numeral.number?, Numeral.integer?, Numeral.ofNat, word]
  have inside : (0 : Int) ≤ n ∧ (n : Int) < bound := by omega
  simp only [readBelow, value]
  rw [if_pos inside, Int.toNat_natCast]

theorem whole_ofNat (n : Nat) : (Node.num (.ofNat n)).Whole := .num nofun

theorem word32_restores (w : UInt32) : word32.Restores w where
  read_write := by
    have value := readBelow_ofNat w.toNat_lt (by decide) "u32"
    change (readBelow UInt32.size "u32" (.num (.ofNat w.toNat))).map UInt32.ofNat = .ok w
    rw [value]
    exact congrArg Except.ok w.ofNat_toNat
  whole := whole_ofNat _
  ne_null := nofun

theorem word64_restores (w : UInt64) : word64.Restores w where
  read_write := by
    have value := readBelow_ofNat w.toNat_lt (by decide) "u64"
    change (readBelow UInt64.size "u64" (.num (.ofNat w.toNat))).map UInt64.ofNat = .ok w
    rw [value]
    exact congrArg Except.ok w.ofNat_toNat
  whole := whole_ofNat _
  ne_null := nofun

theorem list_restores {c : Codec α} {values : List α} (h : ∀ a ∈ values, c.Restores a) :
    c.list.Restores values where
  read_write := by
    have items : (values.map c.write).mapM c.read = .ok values := by
      have reads : ∀ a ∈ values, (c.read ∘ c.write) a = .ok (id a) := by
        intro a ha
        exact (h a ha).read_write
      rw [List.mapM_map, mapM_eq_ok reads, List.map_id]
    change ((values.map c.write).mapM c.read >>= fun values => pure values) = .ok values
    rw [items]
    rfl
  whole := by
    refine .arr fun item hitem => ?_
    obtain ⟨a, ha, rfl⟩ := List.mem_map.1 hitem
    exact (h a ha).whole
  ne_null := nofun

theorem variant_restores {variants : List (String × α)} {name : α → String} {a : α}
    (h : variants.lookup (name a) = some a) : (variant variants name).Restores a where
  read_write := by
    change pick variants (name a) = .ok a
    rw [pick, h]
  whole := .str _
  ne_null := nofun

/-- What is written as a text is read from that text. -/
theorem Restores.document {c : Codec α} {a : α} (h : c.Restores a) :
    (Document.ofText (c.write a).compact).read c = .ok a := by
  rw [Node.ofText_compact h.whole, Document.read, h.read_write]
  rfl

end Codec

/-! ## Fields -/

namespace Field

variable {α : Type}

theorem Restores.required {c : Codec α} {a : α} {name : String} (h : c.Restores a) :
    (required name c).Restores a :=
  ⟨fun _ => h.read_write, fun _ => h.whole, nofun⟩

theorem Restores.withDefault {c : Codec α} {a blank : α} {name : String} (h : c.Restores a) :
    (withDefault name c blank).Restores a :=
  ⟨fun _ => h.read_write, fun _ => h.whole, nofun⟩

theorem read_nullable {c : Codec α} {node : Node} (h : node ≠ .null) (blank : α) :
    (c.nullable blank).read node = c.read node := by
  cases node <;> first | exact absurd rfl h | rfl

theorem read_optional {c : Codec α} {node : Node} (h : node ≠ .null) :
    c.optional.read node = (c.read node).map some := by
  cases node <;> first | exact absurd rfl h | rfl

/-- A value that is there is not mistaken for one that is not. -/
theorem read_write_optional {c : Codec α} {a : α} (h : c.Restores a) :
    c.optional.read (c.optional.write (some a)) = .ok (some a) := by
  change c.optional.read (c.write a) = .ok (some a)
  rw [read_optional h.ne_null, h.read_write]
  rfl

theorem Restores.nullable {c : Codec α} {a blank : α} {name : String} (h : c.Restores a) :
    (nullable name c blank).Restores a :=
  ⟨fun _ => (read_nullable h.ne_null blank).trans h.read_write, fun _ => h.whole, nofun⟩

theorem Restores.optional {c : Codec α} {o : Option α} {name : String}
    (h : ∀ a ∈ o, c.Restores a) : (optional name c).Restores o := by
  cases o with
  | none => exact ⟨fun _ => rfl, fun _ => .null, nofun⟩
  | some a => exact ⟨fun _ => read_write_optional (h a rfl), fun _ => (h a rfl).whole, nofun⟩

theorem Restores.omitted {c : Codec α} {o : Option α} {name : String}
    (h : ∀ a ∈ o, c.Restores a) : (omitted name c).Restores o := by
  cases o with
  | none => exact ⟨nofun, nofun, fun _ => rfl⟩
  | some a => exact ⟨fun _ => read_write_optional (h a rfl), fun _ => (h a rfl).whole, nofun⟩

end Field

/-! ## Records -/

namespace Fields

/-- Every field restores its value. -/
def Restores {γ σ : Type} (fields : Fields γ σ) (values : γ) : Prop :=
  match fields, values with
  | nil, () => True
  | cons field rest, (a, values) => field.Restores a ∧ rest.Restores values

/-- The slots after the members that values are written as. -/
def taken {γ σ : Type} (fields : Fields γ σ) (values : γ) : σ :=
  match fields, values with
  | nil, () => ()
  | cons field rest, (a, values) =>
    (if field.isWritten a then some a else none, rest.taken values)

variable {α β γ σ : Type}

theorem name_mem_of_mem_write {fields : Fields γ σ} {values : γ} :
    ∀ m ∈ fields.write values, ∃ name ∈ fields.names, m.1 = .str (some name) := by
  induction fields with
  | nil => nofun
  | cons field rest ih =>
    obtain ⟨a, values⟩ := values
    intro m hm
    rw [write] at hm
    split at hm
    · rcases List.mem_cons.1 hm with rfl | hm
      · exact ⟨field.name, List.mem_cons_self .., rfl⟩
      · obtain ⟨name, hname, hkey⟩ := ih m hm
        exact ⟨name, List.mem_cons_of_mem _ hname, hkey⟩
    · obtain ⟨name, hname, hkey⟩ := ih m hm
      exact ⟨name, List.mem_cons_of_mem _ hname, hkey⟩

/-- The members of other fields pass a field by. -/
theorem putAll_cons {field : Field α} {rest : Fields β σ} {members : List (Node × Node)}
    (h : ∀ m ∈ members, ∃ name, m.1 = .str (some name) ∧ name ≠ field.name)
    (slot : Option α) (slots : σ) :
    (cons field rest).putAll members (slot, slots) =
      (rest.putAll members slots).map fun slots => (slot, slots) := by
  induction members generalizing slots with
  | nil => rfl
  | cons m members ih =>
    obtain ⟨⟨name, hname, hne⟩, hmembers⟩ := List.forall_mem_cons.1 h
    obtain ⟨key, value⟩ := m
    cases hname
    simp only [putAll, put, if_neg hne]
    cases rest.put name value slots with
    | error fault => rfl
    | ok slots' => exact ih hmembers slots'

theorem putAll_write {fields : Fields γ σ} {values : γ} (hn : fields.names.Nodup)
    (h : fields.Restores values) :
    fields.putAll (fields.write values) fields.unread = .ok (fields.taken values) := by
  induction fields with
  | nil => rfl
  | cons field rest ih =>
    obtain ⟨a, values⟩ := values
    obtain ⟨hfield, hrest⟩ := h
    obtain ⟨hname, hnames⟩ := List.nodup_cons.1 hn
    have others : ∀ m ∈ rest.write values, ∃ name, m.1 = .str (some name) ∧ name ≠ field.name := by
      intro m hm
      obtain ⟨name, hmem, hkey⟩ := name_mem_of_mem_write m hm
      exact ⟨name, hkey, fun he => hname (he ▸ hmem)⟩
    rw [write, unread, taken]
    cases hw : field.isWritten a with
    | true =>
      simp only [if_true, putAll, put, hfield.read_write hw]
      change (cons field rest).putAll (rest.write values) (some a, rest.unread) = _
      rw [putAll_cons others, ih hnames hrest]
      rfl
    | false =>
      rw [if_neg Bool.false_ne_true, if_neg Bool.false_ne_true, putAll_cons others, ih hnames hrest]
      rfl

theorem fill_taken {fields : Fields γ σ} {values : γ} (h : fields.Restores values) :
    fields.fill (fields.taken values) = .ok values := by
  induction fields with
  | nil => rfl
  | cons field rest ih =>
    obtain ⟨a, values⟩ := values
    obtain ⟨hfield, hrest⟩ := h
    have slot : (if field.isWritten a then some a else none).or field.blank = some a := by
      cases hw : field.isWritten a with
      | true => rfl
      | false => exact hfield.blank hw
    rw [taken, fill, slot, ih hrest]
    rfl

theorem whole_write {fields : Fields γ σ} {values : γ} (h : fields.Restores values) :
    ∀ m ∈ fields.write values, m.2.Whole := by
  induction fields with
  | nil => nofun
  | cons field rest ih =>
    obtain ⟨a, values⟩ := values
    obtain ⟨hfield, hrest⟩ := h
    intro m hm
    rw [write] at hm
    split at hm
    · next hw =>
      rcases List.mem_cons.1 hm with rfl | hm
      · exact hfield.whole hw
      · exact ih hrest m hm
    · exact ih hrest m hm

end Fields

/-- A record is restored when its fields are, if their names tell them apart. -/
theorem Layout.restores {ρ : Type} {l : Layout ρ} {r : ρ} (hn : l.fields.names.Nodup)
    (hr : l.ofValues (l.toValues r) = r) (h : l.fields.Restores (l.toValues r)) :
    l.codec.Restores r where
  read_write := by
    change (l.fields.readMembers (l.fields.write (l.toValues r)) true).map l.ofValues = .ok r
    have values : l.fields.readMembers (l.fields.write (l.toValues r)) true =
        .ok (l.toValues r) := by
      rw [Fields.readMembers, Fields.putAll_write hn h]
      exact Fields.fill_taken h
    rw [values]
    exact congrArg Except.ok hr
  whole := by
    refine .obj (fun m hm => ?_) (Fields.whole_write h)
    obtain ⟨name, -, hname⟩ := Fields.name_mem_of_mem_write m hm
    exact ⟨_, hname⟩
  ne_null := nofun

end SigningPreview.Json
