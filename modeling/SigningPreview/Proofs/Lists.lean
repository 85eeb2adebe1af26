import Mathlib.Data.List.Forall2

/-! # Lists and steps that can fail

What the proofs need of lists beyond the library: the first element without a property, traversals
that are filters in disguise, traversals of steps that can fail, and traversals of two lists whose
elements are alike. -/
namespace SigningPreview

variable {α β ε : Type}

/-! ## Steps that can fail -/

theorem exists_of_bind_eq_ok {x : Except ε α} {k : α → Except ε β} {b : β}
    (h : x >>= k = .ok b) : ∃ a, x = .ok a ∧ k a = .ok b := by
  cases x with
  | error e => cases h
  | ok a => exact ⟨a, rfl, h⟩

theorem exists_of_map_eq_ok {x : Except ε α} {f : α → β} {b : β} (h : x.map f = .ok b) :
    ∃ a, x = .ok a ∧ b = f a := by
  cases x with
  | error e => cases h
  | ok a => exact ⟨a, rfl, (Except.ok.inj h).symm⟩

/-- Whether a step goes through, or why not; what it leads to is left out. -/
def verdict (x : Except ε α) : Except ε Unit := x.map fun _ => ()

/-- Steps with the same verdict fail alike, or both go through. -/
theorem verdict_cases {x : Except ε α} {y : Except ε β} (h : verdict x = verdict y) :
    (∃ e, x = .error e ∧ y = .error e) ∨ ∃ a b, x = .ok a ∧ y = .ok b := by
  cases x with
  | error e =>
    cases y with
    | error e' => exact .inl ⟨e, rfl, congrArg _ (Except.error.inj h).symm⟩
    | ok b => cases h
  | ok a =>
    cases y with
    | error e' => cases h
    | ok b => exact .inr ⟨a, b, rfl, rfl⟩

theorem exists_ok_iff_of_verdict {x : Except ε α} {y : Except ε β} (h : verdict x = verdict y) :
    (∃ a, x = .ok a) ↔ ∃ b, y = .ok b := by
  obtain ⟨e, rfl, rfl⟩ | ⟨a, b, rfl, rfl⟩ := verdict_cases h <;> simp

/-! ## First elements -/

theorem forall_or_first (p : α → Prop) (as : List α) :
    (∀ a ∈ as, p a) ∨
      ∃ before a after, as = before ++ a :: after ∧ (∀ b ∈ before, p b) ∧ ¬ p a := by
  induction as with
  | nil => exact .inl (by simp)
  | cons a as ih =>
    by_cases ha : p a
    · obtain has | ⟨before, b, after, rfl, hbefore, hb⟩ := ih
      · exact .inl (List.forall_mem_cons.2 ⟨ha, has⟩)
      · exact .inr ⟨a :: before, b, after, rfl, List.forall_mem_cons.2 ⟨ha, hbefore⟩, hb⟩
    · exact .inr ⟨[], a, as, rfl, by simp, ha⟩

/-! ## Traversals -/

theorem mapM_eq_ok {f : α → Except ε β} {g : α → β} {as : List α}
    (h : ∀ a ∈ as, f a = .ok (g a)) : as.mapM f = .ok (as.map g) := by
  induction as with
  | nil => rfl
  | cons a as ih =>
    obtain ⟨ha, has⟩ := List.forall_mem_cons.1 h
    rw [List.mapM_cons, ha, ih has]; rfl

theorem mapM_eq_some {f : α → Option β} {g : α → β} {as : List α}
    (h : ∀ a ∈ as, f a = some (g a)) : as.mapM f = some (as.map g) := by
  induction as with
  | nil => rfl
  | cons a as ih =>
    obtain ⟨ha, has⟩ := List.forall_mem_cons.1 h
    rw [List.mapM_cons, ha, ih has]; rfl

/-- A traversal that goes through goes through every part of the list. -/
theorem mapM_append_cons_eq_ok_iff {f : α → Except ε β} {before after : List α} {a : α}
    {bs : List β} :
    (before ++ a :: after).mapM f = .ok bs ↔
      ∃ xs b ys, before.mapM f = .ok xs ∧ f a = .ok b ∧ after.mapM f = .ok ys ∧
        bs = xs ++ b :: ys := by
  rw [List.mapM_append, List.mapM_cons]
  constructor
  · intro h
    obtain ⟨xs, hxs, h⟩ := exists_of_bind_eq_ok h
    obtain ⟨ys, hys, h⟩ := exists_of_bind_eq_ok h
    obtain ⟨b, hb, hys⟩ := exists_of_bind_eq_ok hys
    obtain ⟨ys, hafter, hys⟩ := exists_of_bind_eq_ok hys
    cases hys
    cases h
    exact ⟨xs, b, ys, hxs, hb, hafter, rfl⟩
  · rintro ⟨xs, b, ys, hxs, hb, hys, rfl⟩
    rw [hxs, hb, hys]; rfl

/-- A traversal ends with the error of the first step that fails. -/
theorem mapM_append_cons_error {f : α → Except ε β} {before after : List α} {a : α} {bs : List β}
    {e : ε} (hbefore : before.mapM f = .ok bs) (ha : f a = .error e) :
    (before ++ a :: after).mapM f = .error e := by
  rw [List.mapM_append, List.mapM_cons, hbefore, ha]; rfl

/-- A traversal goes through, or there is a first step that fails. -/
theorem mapM_cases (f : α → Except ε β) (as : List α) :
    (∃ bs, as.mapM f = .ok bs) ∨
      ∃ before a after bs e, as = before ++ a :: after ∧ before.mapM f = .ok bs ∧
        f a = .error e := by
  induction as with
  | nil => exact .inl ⟨[], rfl⟩
  | cons a as ih =>
    cases ha : f a with
    | error e => exact .inr ⟨[], a, as, [], e, rfl, rfl, ha⟩
    | ok b =>
      rcases ih with ⟨bs, hbs⟩ | ⟨before, a', after, bs, e, rfl, hbefore, ha'⟩
      · exact .inl ⟨b :: bs, by rw [List.mapM_cons, ha, hbs]; rfl⟩
      · exact .inr ⟨a :: before, a', after, b :: bs, e, rfl,
          by rw [List.mapM_cons, ha, hbefore]; rfl, ha'⟩

/-! ## Two lists side by side -/

section Forall₂
variable {R : α → β → Prop} {as : List α} {bs : List β} {γ : Type}

theorem map_eq_of_forall₂ {f : α → γ} {g : β → γ} (h : List.Forall₂ R as bs)
    (same : ∀ a b, R a b → f a = g b) : as.map f = bs.map g := by
  induction h with
  | nil => rfl
  | cons hab _ ih => rw [List.map_cons, List.map_cons, same _ _ hab, ih]

theorem flatMap_eq_of_forall₂ {f : α → List γ} {g : β → List γ} (h : List.Forall₂ R as bs)
    (same : ∀ a b, R a b → f a = g b) : as.flatMap f = bs.flatMap g := by
  rw [List.flatMap_def, List.flatMap_def, map_eq_of_forall₂ h same]

theorem filterMap_eq_of_forall₂ {f : α → Option γ} {g : β → Option γ} (h : List.Forall₂ R as bs)
    (same : ∀ a b, R a b → f a = g b) : as.filterMap f = bs.filterMap g := by
  induction h with
  | nil => rfl
  | cons hab _ ih => rw [List.filterMap_cons, List.filterMap_cons, same _ _ hab, ih]

theorem head?_rel_of_forall₂ (h : List.Forall₂ R as bs) : Option.Rel R as.head? bs.head? := by
  cases h with
  | nil => exact .none
  | cons hab _ => exact .some hab

end Forall₂

end SigningPreview
