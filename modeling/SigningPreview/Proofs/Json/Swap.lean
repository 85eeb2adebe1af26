import SigningPreview.Proofs.Json.Members
import SigningPreview.Proofs.Lists

/-! # One value in the place of another

A record is read from the values of its fields, so a value that is exchanged for another one shows
in its own field and nowhere else. `Fields.Place` is where a field stands in a record, `Node.Swap`
says that two trees of a record differ in the value of one field, and `Layout.read_swap` says what
that does to reading: the one field is read from the new value, whether the record is written as an
object or as an array, and a fault in the new value is the fault of the record. -/
namespace SigningPreview.Json

/-- Where a field stands in a record. No field before it has its name, so it is the one that takes
the members of that name. -/
inductive Fields.Place {α : Type} (f : Field α) : {γ σ : Type} → Fields γ σ → Type 1
  | here {β σ : Type} {rest : Fields β σ} : Place f (.cons f rest)
  | later {β γ σ : Type} {g : Field β} {rest : Fields γ σ} (apart : f.name ≠ g.name)
    (place : Place f rest) : Place f (.cons g rest)

namespace Fields.Place

variable {α : Type} {f : Field α}

/-- How many fields stand before it. -/
def index {γ σ : Type} {fields : Fields γ σ} : Place f fields → Nat
  | here => 0
  | later _ place => place.index + 1

/-- The value of the field among the values of all fields. -/
def get {γ σ : Type} {fields : Fields γ σ} (place : Place f fields) (values : γ) : α :=
  match place, values with
  | here, (a, _) => a
  | later _ place, (_, values) => place.get values

/-- The values of all fields with another value for this one. -/
def set {γ σ : Type} {fields : Fields γ σ} (place : Place f fields) (a : α) (values : γ) : γ :=
  match place, values with
  | here, (_, values) => (a, values)
  | later _ place, (b, values) => (b, place.set a values)

theorem set_get {γ σ : Type} {fields : Fields γ σ} (place : Place f fields) (values : γ) :
    place.set (place.get values) values = values := by
  induction place with
  | here => rfl
  | later _ place ih =>
    obtain ⟨b, values⟩ := values
    exact congrArg (Prod.mk b) (ih values)

end Fields.Place

/-- Two trees of a record that differ in the value of one field at most: it is `n` in the one and
`n'` in the other. The field has a name in an object and an index in an array. -/
inductive Node.Swap (name : String) (index : Nat) (n n' : Node) : Node → Node → Prop
  | member (before after : List (Node × Node)) (closed : Bool) :
    Swap name index n n' (.obj (before ++ (.str (some name), n) :: after) closed)
      (.obj (before ++ (.str (some name), n') :: after) closed)
  | item {before : List Node} (h : before.length = index) (after : List Node) (closed : Bool) :
    Swap name index n n' (.arr (before ++ n :: after) closed) (.arr (before ++ n' :: after) closed)

theorem Node.Swap.symm {name : String} {index : Nat} {n n' m m' : Node}
    (h : Node.Swap name index n n' m m') : Node.Swap name index n' n m' m := by
  cases h with
  | member before after closed => exact .member before after closed
  | item h after closed => exact .item h after closed

open Node (isNamed)

namespace Fields

variable {α γ σ : Type} {f : Field α} {fields : Fields γ σ} {n n' : Node}

/-! ## In an object -/

/-- A field has the value that its member has, whatever that is. -/
theorem Matches.swap (place : Place f fields) {before after : List (Node × Node)} {values : γ}
    (h : fields.Matches (before ++ (.str (some f.name), n) :: after) values) :
    f.codec.read n = .ok (place.get values) ∧
      ∀ n' a, f.codec.read n' = .ok a →
        fields.Matches (before ++ (.str (some f.name), n') :: after) (place.set a values) := by
  induction place generalizing before after with
  | here =>
    obtain ⟨a, values⟩ := values
    obtain ⟨hfield, hrest⟩ := h
    rw [List.filter_append, List.filter_cons_of_pos (by simp [isNamed])] at hfield
    rw [List.filter_append, List.filter_cons_of_neg (by simp [isNamed])] at hrest
    obtain ⟨hbefore, hafter, hread⟩ := hfield.of_append
    refine ⟨hread, fun n' a' hn' => ⟨?_, ?_⟩⟩
    · rw [List.filter_append, List.filter_cons_of_pos (by simp [isNamed]), hbefore, hafter]
      exact .member hn'
    · rw [List.filter_append, List.filter_cons_of_neg (by simp [isNamed])]
      exact hrest
  | @later β γ σ g rest apart place ih =>
    obtain ⟨b, values⟩ := values
    obtain ⟨hfield, hrest⟩ := h
    rw [List.filter_append, List.filter_cons_of_neg (by simp [isNamed, apart])] at hfield
    rw [List.filter_append, List.filter_cons_of_pos (by simp [isNamed, apart])] at hrest
    obtain ⟨hread, hset⟩ := ih hrest
    refine ⟨hread, fun n' a' hn' => ⟨?_, ?_⟩⟩
    · rw [List.filter_append, List.filter_cons_of_neg (by simp [isNamed, apart])]
      exact hfield
    · rw [List.filter_append, List.filter_cons_of_pos (by simp [isNamed, apart])]
      exact hset n' a' hn'

/-- A field whose member came is faulty when its value is. -/
theorem put_error (place : Place f fields) {slots slots' : σ} {fault : Fault}
    (h : fields.put f.name n slots = .ok slots') (hn' : f.codec.read n' = .error fault) :
    fields.put f.name n' slots = .error fault := by
  induction place with
  | here =>
    obtain ⟨slot, slots⟩ := slots
    simp only [put, if_true] at h ⊢
    cases slot with
    | some a => cases h
    | none => rw [hn']; rfl
  | later apart place ih =>
    obtain ⟨slot, slots⟩ := slots
    simp only [put, if_neg apart] at h ⊢
    cases hrest : Fields.put _ f.name n slots with
    | error fault' => rw [hrest] at h; cases h
    | ok slots'' => rw [ih hrest]; rfl

theorem putAll_error (place : Place f fields) {before after : List (Node × Node)}
    {slots slots' : σ} {fault : Fault}
    (h : fields.putAll (before ++ (.str (some f.name), n) :: after) slots = .ok slots')
    (hn' : f.codec.read n' = .error fault) :
    fields.putAll (before ++ (.str (some f.name), n') :: after) slots = .error fault := by
  induction before generalizing slots with
  | nil =>
    rw [List.nil_append, putAll] at h ⊢
    cases hput : fields.put f.name n slots with
    | error fault' => rw [hput] at h; cases h
    | ok slots'' => rw [put_error place hput hn']; rfl
  | cons m before ih =>
    obtain ⟨key, value⟩ := m
    by_cases hkey : ∃ name, key = .str (some name)
    case neg =>
      rw [List.cons_append, putAll_cons_of_unnamed fun name he => hkey ⟨name, he⟩] at h
      cases h
    case pos =>
      obtain ⟨name, rfl⟩ := hkey
      rw [List.cons_append, putAll] at h ⊢
      cases hput : fields.put name value slots with
      | error fault' => rw [hput] at h; cases h
      | ok slots'' =>
        rw [hput] at h
        exact ih h

theorem readMembers_swap (place : Place f fields) (n' : Node) {before after : List (Node × Node)}
    {closed : Bool} {values : γ}
    (h : fields.readMembers (before ++ (.str (some f.name), n) :: after) closed = .ok values) :
    f.codec.read n = .ok (place.get values) ∧
      fields.readMembers (before ++ (.str (some f.name), n') :: after) closed =
        (f.codec.read n').map fun a => place.set a values := by
  obtain ⟨hclosed, hmatches⟩ := readMembers_eq_ok_iff.1 h
  obtain ⟨hread, hset⟩ := hmatches.swap place
  refine ⟨hread, ?_⟩
  cases hn' : f.codec.read n' with
  | ok a => exact readMembers_eq_ok_iff.2 ⟨hclosed, hset n' a hn'⟩
  | error fault =>
    obtain ⟨slots, hput, -⟩ := matches_iff.1 hmatches
    rw [readMembers, putAll_error place hput hn']; rfl

/-! ## In an array -/

theorem readItems_swap (place : Place f fields) (n' : Node) {tooShort : Nat → Fault} {closed : Bool}
    {index : Nat} {before after : List Node} {values : γ} (hbefore : before.length = place.index)
    (h : fields.readItems tooShort closed index (before ++ n :: after) = .ok values) :
    f.codec.read n = .ok (place.get values) ∧
      fields.readItems tooShort closed index (before ++ n' :: after) =
        (f.codec.read n').map fun a => place.set a values := by
  induction place generalizing before index with
  | @here β σ rest =>
    obtain rfl : before = [] := List.eq_nil_of_length_eq_zero hbefore
    rw [List.nil_append, readItems] at h ⊢
    obtain ⟨a, hn, h⟩ := exists_of_bind_eq_ok h
    obtain ⟨values', hrest, h⟩ := exists_of_bind_eq_ok h
    cases h
    refine ⟨hn, ?_⟩
    rw [hrest]
    cases f.codec.read n' <;> rfl
  | @later β γ σ g rest apart place ih =>
    cases before with
    | nil => cases hbefore
    | cons item before =>
      rw [List.cons_append, readItems] at h ⊢
      obtain ⟨b, hitem, h⟩ := exists_of_bind_eq_ok h
      obtain ⟨values', hrest, h⟩ := exists_of_bind_eq_ok h
      cases h
      obtain ⟨hread, hset⟩ := ih (Nat.succ.inj hbefore) hrest
      refine ⟨hread, ?_⟩
      rw [hitem, hset]
      cases f.codec.read n' <;> rfl

end Fields

/-- Reading a record after the value of one field was exchanged. The other fields keep their values;
a fault in the new value is a fault of the record. -/
theorem Layout.read_swap {ρ α : Type} {l : Layout ρ} {f : Field α} (place : l.fields.Place f)
    {n n' m m' : Node} (h : Node.Swap f.name place.index n n' m m') {r : ρ}
    (hr : l.codec.read m = .ok r) :
    ∃ values, r = l.ofValues values ∧ f.codec.read n = .ok (place.get values) ∧
      l.codec.read m' = (f.codec.read n').map fun a => l.ofValues (place.set a values) := by
  cases h with
  | member before after closed =>
    obtain ⟨values, hvalues, rfl⟩ := exists_of_map_eq_ok hr
    obtain ⟨hread, hswap⟩ := Fields.readMembers_swap place n' hvalues
    refine ⟨values, rfl, hread, ?_⟩
    change (l.fields.readMembers _ closed).map l.ofValues = _
    rw [hswap]
    cases f.codec.read n' <;> rfl
  | item hbefore after closed =>
    obtain ⟨values, hvalues, rfl⟩ := exists_of_map_eq_ok hr
    obtain ⟨hread, hswap⟩ := Fields.readItems_swap place n' hbefore hvalues
    refine ⟨values, rfl, hread, ?_⟩
    change (l.fields.readItems _ closed 0 _).map l.ofValues = _
    rw [hswap]
    cases f.codec.read n' <;> rfl

/-- Reading a list after one item was exchanged. -/
theorem Codec.read_list_swap {α : Type} {c : Codec α} {before after : List Node} {closed : Bool}
    {n n' : Node} {as : List α} (h : c.list.read (.arr (before ++ n :: after) closed) = .ok as) :
    ∃ xs a ys, as = xs ++ a :: ys ∧ c.read n = .ok a ∧
      ∀ a', c.read n' = .ok a' →
        c.list.read (.arr (before ++ n' :: after) closed) = .ok (xs ++ a' :: ys) := by
  change ((before ++ n :: after).mapM c.read >>= fun values =>
    if closed then pure values else .error .notJson) = .ok as at h
  obtain ⟨values, hvalues, h⟩ := exists_of_bind_eq_ok h
  obtain ⟨xs, a, ys, hxs, ha, hys, rfl⟩ := mapM_append_cons_eq_ok_iff.1 hvalues
  cases closed with
  | false => cases h
  | true =>
    cases h
    refine ⟨xs, a, ys, rfl, ha, fun a' ha' => ?_⟩
    have hvalues' := mapM_append_cons_eq_ok_iff.2 ⟨xs, a', ys, hxs, ha', hys, rfl⟩
    change ((before ++ n' :: after).mapM c.read >>= _) = _
    rw [hvalues']; rfl

end SigningPreview.Json
