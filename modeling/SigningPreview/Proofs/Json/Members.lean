import SigningPreview.Json.Record

/-! # What the members of an object say

A record takes the members of an object one by one, in whatever order they come. When that
succeeds, the outcome can be said without any order (`Fields.Matches`): every field has the value of
the one member of its name, or is blank if there is none, and what is left are members of other
names with values that were written to their end. Main statement: reading the members of an object
gives exactly the values that match them (`Fields.readMembers_eq_ok_iff`). So members may be
permuted (`Matches.perm`) and members of unknown names added (`Matches.cons_unknown`). -/
namespace SigningPreview.Json

/-- Whether a member has this name. -/
def Node.isNamed (name : String) : Node × Node → Bool
  | (.str (some key), _) => key = name
  | _ => false

open Node (isNamed)

/-- A field is matched by at most one member of its name, and without one only if it has a blank
value. -/
inductive Field.Matches {α : Type} (f : Field α) : List (Node × Node) → α → Prop
  | member {key value : Node} {a : α} (h : f.codec.read value = .ok a) : Matches f [(key, value)] a
  | blank {a : α} (h : f.blank = some a) : Matches f [] a

theorem Field.Matches.perm {α : Type} {field : Field α} {members members' : List (Node × Node)}
    {a : α} (h : field.Matches members a) (hp : members.Perm members') :
    field.Matches members' a := by
  cases h with
  | member h =>
    rw [← List.singleton_perm.1 hp]
    exact .member h
  | blank h =>
    rw [List.nil_perm.1 hp]
    exact .blank h

theorem Field.Matches.of_append {α : Type} {field : Field α} {before after : List (Node × Node)}
    {m : Node × Node} {a : α} (h : field.Matches (before ++ m :: after) a) :
    before = [] ∧ after = [] ∧ field.codec.read m.2 = .ok a := by
  generalize hall : before ++ m :: after = members at h
  cases h with
  | member h =>
    rcases List.append_eq_singleton_iff.1 hall with ⟨rfl, hm⟩ | ⟨-, hm⟩
    · cases hm; exact ⟨rfl, rfl, h⟩
    · cases hm
  | blank h => simp at hall

/-- `null` may stand for the value of a field, and means that it is blank. -/
def Field.TakesNull {α : Type} (f : Field α) : Prop :=
  ∃ a, f.blank = some a ∧ f.codec.read .null = .ok a

namespace Fields

/-- Every field takes the members of its name. What no field takes has some other name and a whole
value. -/
def Matches {γ σ : Type} (fields : Fields γ σ) (members : List (Node × Node)) (values : γ) : Prop :=
  match fields, values with
  | nil, () => ∀ m ∈ members, (∃ name, m.1 = .str (some name)) ∧ m.2.intact = true
  | cons field rest, (a, values) =>
    field.Matches (members.filter (isNamed field.name)) a ∧
      rest.Matches (members.filter fun m => !isNamed field.name m) values

variable {α β γ σ : Type}

/-! ## Members one by one -/

/-- What the members of its name make of the slot of a field: nothing may come to a full slot. -/
inductive Fills (field : Field α) : Option α → List (Node × Node) → Option α → Prop
  | none (slot : Option α) : Fills field slot [] slot
  | member {key value : Node} {a : α} (h : field.codec.read value = .ok a) :
    Fills field none [(key, value)] (some a)

theorem fills_nil {field : Field α} {slot slot' : Option α} :
    Fills field slot [] slot' ↔ slot' = slot := by
  constructor
  · rintro ⟨⟩; rfl
  · rintro rfl; exact .none _

theorem fills_cons_some {field : Field α} {a : α} {m : Node × Node} {members : List (Node × Node)}
    {slot' : Option α} : ¬ Fills field (some a) (m :: members) slot' := by
  rintro ⟨⟩

theorem fills_cons_none {field : Field α} {m : Node × Node} {members : List (Node × Node)}
    {slot' : Option α} :
    Fills field none (m :: members) slot' ↔
      ∃ a, field.codec.read m.2 = .ok a ∧ Fills field (some a) members slot' := by
  constructor
  · rintro ⟨⟩
    next h => exact ⟨_, h, .none _⟩
  · rintro ⟨a, ha, hmembers⟩
    cases hmembers
    exact .member ha

theorem putAll_cons_of_unnamed {fields : Fields γ σ} {key value : Node}
    {members : List (Node × Node)} {slots : σ} (h : ∀ name, key ≠ .str (some name)) :
    fields.putAll ((key, value) :: members) slots = .error .notJson := by
  rw [putAll]
  intro name _ he
  cases he
  exact h name rfl

theorem isNamed_of_unnamed {key value : Node} (h : ∀ name, key ≠ .str (some name))
    (name : String) : isNamed name (key, value) = false := by
  unfold isNamed
  split
  · next he => cases he; exact absurd rfl (h _)
  · rfl

/-- A field and the fields after it take their members independently of each other. -/
theorem putAll_cons_eq_ok_iff {field : Field α} {rest : Fields β σ} {members : List (Node × Node)}
    {slot slot' : Option α} {slots slots' : σ} :
    (cons field rest).putAll members (slot, slots) = .ok (slot', slots') ↔
      Fills field slot (members.filter (isNamed field.name)) slot' ∧
        rest.putAll (members.filter fun m => !isNamed field.name m) slots = .ok slots' := by
  induction members generalizing slot slots with
  | nil =>
    rw [List.filter_nil, List.filter_nil, fills_nil]
    simp only [putAll, Except.ok.injEq, Prod.mk.injEq]
    exact and_congr eq_comm Iff.rfl
  | cons m members ih =>
    obtain ⟨key, value⟩ := m
    by_cases hkey : ∃ name, key = .str (some name)
    case neg =>
      have unnamed : ∀ name, key ≠ .str (some name) := fun name he => hkey ⟨name, he⟩
      rw [putAll_cons_of_unnamed unnamed,
        List.filter_cons_of_neg (by simp [isNamed_of_unnamed unnamed]),
        List.filter_cons_of_pos (by simp [isNamed_of_unnamed unnamed]),
        putAll_cons_of_unnamed unnamed]
      simp
    case pos =>
      obtain ⟨name, rfl⟩ := hkey
      by_cases hname : name = field.name
      · rw [List.filter_cons_of_pos (by simp [isNamed, hname]),
          List.filter_cons_of_neg (by simp [isNamed, hname])]
        cases slot with
        | some a =>
          simp only [putAll, put, if_pos hname]
          simp [fills_cons_some, bind, Except.bind]
        | none =>
          simp only [putAll, put, if_pos hname, fills_cons_none]
          cases hread : field.codec.read value with
          | error fault => simp [Except.map, bind, Except.bind]
          | ok a => simp [Except.map, bind, Except.bind, ih]
      · rw [List.filter_cons_of_neg (by simp [isNamed, hname]),
          List.filter_cons_of_pos (by simp [isNamed, hname])]
        simp only [putAll, put, if_neg hname]
        cases rest.put name value slots with
        | error fault => simp [Except.map, bind, Except.bind]
        | ok slots' => simp [Except.map, bind, Except.bind, ih]

theorem putAll_nil_eq_ok_iff {members : List (Node × Node)} :
    nil.putAll members () = .ok () ↔
      ∀ m ∈ members, (∃ name, m.1 = .str (some name)) ∧ m.2.intact = true := by
  induction members with
  | nil => simp [putAll]
  | cons m members ih =>
    obtain ⟨key, value⟩ := m
    rw [List.forall_mem_cons]
    by_cases hkey : ∃ name, key = .str (some name)
    case neg =>
      rw [putAll_cons_of_unnamed fun name he => hkey ⟨name, he⟩]
      simp [hkey]
    case pos =>
      obtain ⟨name, rfl⟩ := hkey
      cases hvalue : value.intact with
      | false => simp [putAll, put, hvalue, bind, Except.bind]
      | true => simpa [putAll, put, hvalue, bind, Except.bind] using ih

/-! ## All members -/

theorem matches_iff_fills {field : Field α} {members : List (Node × Node)} {a : α} :
    field.Matches members a ↔
      ∃ slot, Fills field none members slot ∧ slot.or field.blank = some a := by
  constructor
  · rintro (h | h)
    · exact ⟨_, .member h, rfl⟩
    · exact ⟨_, .none _, h⟩
  · rintro ⟨slot, hfills, hslot⟩
    cases hfills with
    | none => exact .blank hslot
    | member h => cases hslot; exact .member h

theorem fill_cons_eq_ok_iff {field : Field α} {rest : Fields β σ} {slot : Option α} {slots : σ}
    {a : α} {values : β} :
    (cons field rest).fill (slot, slots) = .ok (a, values) ↔
      slot.or field.blank = some a ∧ rest.fill slots = .ok values := by
  rw [fill]
  cases slot.or field.blank with
  | none => simp
  | some a' => cases rest.fill slots <;> simp [Except.map]

/-- The values that taking all members and filling in the blanks come to. -/
theorem matches_iff {fields : Fields γ σ} {members : List (Node × Node)} {values : γ} :
    fields.Matches members values ↔
      ∃ slots, fields.putAll members fields.unread = .ok slots ∧
        fields.fill slots = .ok values := by
  induction fields generalizing members with
  | nil =>
    rw [Matches, ← putAll_nil_eq_ok_iff]
    exact ⟨fun h => ⟨(), h, rfl⟩, fun ⟨(), h, _⟩ => h⟩
  | cons field rest ih =>
    obtain ⟨a, values⟩ := values
    rw [Matches, matches_iff_fills, ih]
    constructor
    · rintro ⟨⟨slot, hfills, hslot⟩, slots, hslots, hvalues⟩
      exact ⟨(slot, slots), putAll_cons_eq_ok_iff.2 ⟨hfills, hslots⟩,
        fill_cons_eq_ok_iff.2 ⟨hslot, hvalues⟩⟩
    · rintro ⟨⟨slot, slots⟩, hput, hfill⟩
      obtain ⟨hfills, hslots⟩ := putAll_cons_eq_ok_iff.1 hput
      obtain ⟨hslot, hvalues⟩ := fill_cons_eq_ok_iff.1 hfill
      exact ⟨⟨slot, hfills, hslot⟩, slots, hslots, hvalues⟩

theorem readMembers_eq_ok_iff {fields : Fields γ σ} {members : List (Node × Node)} {closed : Bool}
    {values : γ} :
    fields.readMembers members closed = .ok values ↔
      closed = true ∧ fields.Matches members values := by
  rw [matches_iff, readMembers]
  cases fields.putAll members fields.unread with
  | error fault => simp [bind, Except.bind]
  | ok slots => cases closed <;> simp [bind, Except.bind]

/-! ## Members in another order, and more members -/

/-- The order of the members of an object does not matter. -/
theorem Matches.perm {fields : Fields γ σ} {members members' : List (Node × Node)} {values : γ}
    (h : fields.Matches members values) (hp : members.Perm members') :
    fields.Matches members' values := by
  induction fields generalizing members members' with
  | nil => exact fun m hm => h m (hp.mem_iff.2 hm)
  | cons field rest ih =>
    obtain ⟨a, values⟩ := values
    obtain ⟨hfield, hrest⟩ := h
    exact ⟨hfield.perm (hp.filter _), ih hrest (hp.filter _)⟩

/-- A member of an unknown name does not matter. -/
theorem Matches.cons_unknown {fields : Fields γ σ} {members : List (Node × Node)} {values : γ}
    (h : fields.Matches members values) {name : String} (hname : name ∉ fields.names) {value : Node}
    (hvalue : value.intact = true) :
    fields.Matches ((.str (some name), value) :: members) values := by
  induction fields generalizing members with
  | nil => exact List.forall_mem_cons.2 ⟨⟨⟨name, rfl⟩, hvalue⟩, h⟩
  | cons field rest ih =>
    obtain ⟨a, values⟩ := values
    obtain ⟨hfield, hrest⟩ := h
    obtain ⟨hne, hnames⟩ := not_or.1 fun h => hname (List.mem_cons.2 h)
    constructor
    · rw [List.filter_cons_of_neg (by simp [isNamed, hne])]
      exact hfield
    · rw [List.filter_cons_of_pos (by simp [isNamed, hne])]
      exact ih hrest hnames

/-- The field that takes the members of this name takes `null`. -/
def TakesNull {γ σ : Type} (fields : Fields γ σ) (name : String) : Prop :=
  match fields with
  | nil => False
  | cons field rest => if name = field.name then field.TakesNull else rest.TakesNull name

/-- A member that is `null` does not matter where it would be blank if it were left out. -/
theorem Matches.cons_null {fields : Fields γ σ} {members : List (Node × Node)} {values : γ}
    (h : fields.Matches members values) {name : String} (hnull : fields.TakesNull name)
    (hnew : ∀ m ∈ members, isNamed name m = false) :
    fields.Matches ((.str (some name), .null) :: members) values := by
  induction fields generalizing members with
  | nil => exact hnull.elim
  | cons field rest ih =>
    obtain ⟨a, values⟩ := values
    obtain ⟨hfield, hrest⟩ := h
    rw [TakesNull] at hnull
    split at hnull
    · next hname =>
      obtain ⟨b, hblank, hread⟩ := hnull
      subst hname
      have none : members.filter (isNamed field.name) = [] :=
        List.filter_eq_nil_iff.2 fun m hm => by simp [hnew m hm]
      constructor
      · rw [none] at hfield
        rw [List.filter_cons_of_pos (by simp [isNamed]), none]
        cases hfield with
        | blank h =>
          rw [hblank] at h
          cases h
          exact .member hread
      · rw [List.filter_cons_of_neg (by simp [isNamed])]
        exact hrest
    · next hne =>
      constructor
      · rw [List.filter_cons_of_neg (by simp [isNamed, hne])]
        exact hfield
      · rw [List.filter_cons_of_pos (by simp [isNamed, hne])]
        exact ih hrest hnull fun m hm => hnew m (List.mem_filter.1 hm).1

end Fields
end SigningPreview.Json
