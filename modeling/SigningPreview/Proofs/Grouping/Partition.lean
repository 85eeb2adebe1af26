import SigningPreview.Grouping

/-! # Grouping is a stable partition

One step puts a value at the end of the list of its category and leaves the others alone
(`bucket_add`). So a whole run leaves in each list exactly the values of that category, in the
order in which they came (`bucket_ofList`), and everything else about a grouping follows from its
lists. -/
namespace SigningPreview.Grouping

variable {α β : Type}

/-! ## One step -/

/-- Puts a value where it belongs; a value without a category is left out. -/
def add (category? : α → Option Category) (g : Grouping α) (a : α) : Grouping α :=
  match category? a with
  | some k => g.push k a
  | none => g

theorem bucket_empty (k : Category) : (empty : Grouping α).bucket k = [] := by
  cases k <;> rfl

theorem bucket_push (g : Grouping α) (k : Category) (a : α) (k' : Category) :
    (g.push k a).bucket k' = g.bucket k' ++ if k = k' then [a] else [] := by
  cases k <;> cases k' <;> simp [push, bucket]

theorem bucket_add (category? : α → Option Category) (g : Grouping α) (a : α) (k : Category) :
    (g.add category? a).bucket k = g.bucket k ++ [a].filter fun a => category? a = some k := by
  cases h : category? a with
  | none => simp [add, h]
  | some k' =>
    rw [add, h]
    by_cases hk : k' = k
    · simp [bucket_push, hk, h]
    · simp [bucket_push, hk, h]

theorem size_push (g : Grouping α) (k : Category) (a : α) : (g.push k a).size = g.size + 1 := by
  cases k <;> simp [push, size] <;> omega

theorem size_add (category? : α → Option Category) (g : Grouping α) (a : α) :
    (g.add category? a).size = g.size + if (category? a).isSome then 1 else 0 := by
  cases h : category? a with
  | none => simp [add, h]
  | some k => simp [add, h, size_push]

/-! ## Runs -/

theorem bucket_foldl_add (category? : α → Option Category) (as : List α) (g : Grouping α)
    (k : Category) :
    (as.foldl (add category?) g).bucket k =
      g.bucket k ++ as.filter fun a => category? a = some k := by
  induction as generalizing g with
  | nil => simp
  | cons a as ih =>
    rw [List.foldl_cons, ih, bucket_add, List.append_assoc, ← List.filter_append,
      List.singleton_append]

theorem ofList_eq_foldl (category? : α → Option Category) (as : List α) :
    ofList category? as = as.foldl (add category?) empty := rfl

/-- Each list holds exactly the values of its category, in the order in which they came. -/
theorem bucket_ofList (category? : α → Option Category) (as : List α) (k : Category) :
    (ofList category? as).bucket k = as.filter fun a => category? a = some k := by
  rw [ofList_eq_foldl, bucket_foldl_add, bucket_empty, List.nil_append]

theorem size_foldl_add (category? : α → Option Category) (as : List α) (g : Grouping α) :
    (as.foldl (add category?) g).size = g.size + as.countP fun a => (category? a).isSome := by
  induction as generalizing g with
  | nil => rfl
  | cons a as ih => rw [List.foldl_cons, ih, size_add, List.countP_cons]; omega

/-- The size counts the values that have a category. -/
theorem size_ofList (category? : α → Option Category) (as : List α) :
    (ofList category? as).size = as.countP fun a => (category? a).isSome := by
  rw [ofList_eq_foldl, size_foldl_add]
  exact Nat.zero_add _

/-- The lists of a longer run go on where those of the first part end. -/
theorem bucket_ofList_append (category? : α → Option Category) (as bs : List α) (k : Category) :
    (ofList category? (as ++ bs)).bucket k =
      (ofList category? as).bucket k ++ (ofList category? bs).bucket k := by
  simp only [bucket_ofList, List.filter_append]

/-! ## What follows from the lists -/

theorem ext_bucket {g g' : Grouping α} (h : ∀ k, g.bucket k = g'.bucket k) : g = g' := by
  cases g
  cases g'
  rw [mk.injEq]
  exact ⟨h .transfer, h .approval, h .stakeAuthorityChange⟩

theorem bucket_map (f : α → β) (g : Grouping α) (k : Category) :
    (g.map f).bucket k = (g.bucket k).map f := by
  cases k <;> rfl

/-- Values that keep their categories may be replaced before they are grouped or afterwards. -/
theorem ofList_map {category? : α → Option Category} {category?' : β → Option Category} {f : α → β}
    {as : List α} (h : ∀ a ∈ as, category?' (f a) = category? a) :
    ofList category?' (as.map f) = (ofList category? as).map f := by
  refine ext_bucket fun k => ?_
  have same : ∀ a ∈ as, decide (category?' (f a) = some k) = decide (category? a = some k) := by
    intro a ha
    rw [h a ha]
  rw [bucket_map, bucket_ofList, bucket_ofList, List.filter_map]
  exact congrArg (List.map f) (List.filter_congr same)

/-- What is made of the lists, one category after the other. Only the lists that hold something are
visited, but from the others nothing would come. -/
theorem flatMap_categories (g : Grouping α) (f : List α → List β) (h : f [] = []) :
    (g.categories.flatMap fun k => f (g.bucket k)) =
      Category.all.flatMap fun k => f (g.bucket k) := by
  rw [categories]
  induction Category.all with
  | nil => rfl
  | cons k ks ih =>
    by_cases hk : g.bucket k = []
    · simp [hk, h, ih]
    · simp [hk, ih]

/-- Values with a category are counted alike as a whole and category by category. -/
theorem length_flatMap_category (category? : α → Option Category) (f : α → Option β)
    (h : ∀ a, category? a = none → f a = none) (as : List α) :
    (Category.all.flatMap fun k => (as.filter fun a => category? a = some k).filterMap f).length =
      (as.filterMap f).length := by
  simp only [List.length_flatMap, Category.all, List.map_cons, List.map_nil, List.sum_cons,
    List.sum_nil]
  induction as with
  | nil => rfl
  | cons a as ih =>
    cases hk : category? a with
    | none => simpa [hk, h a hk] using ih
    | some k => cases hf : f a <;> cases k <;> simp [hk, hf] at ih ⊢ <;> omega

end SigningPreview.Grouping
