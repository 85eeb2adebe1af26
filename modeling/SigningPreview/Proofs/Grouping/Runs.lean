import Mathlib.Data.Finset.Card
import SigningPreview.Proofs.Grouping.Partition

/-! # Groupings over any run of operations

A grouping is filled by pushing values and changed by mapping functions over all that is there, in
any order and from one type of values to another. A value that is pushed is changed by the maps
behind it and by no others (`Run.carry`), and a run puts it behind what its list holds by then
(`Run.bucket_apply`). So from an empty grouping a run comes to grouping, once and for all, what was
pushed (`Run.apply_empty`), and everything that a grouping tells follows from that
(`Run.apply_holds`). -/
namespace SigningPreview.Grouping

/-! ## What a grouping tells -/

section Queries
variable {α β : Type} (g : Grouping α)

theorem size_map (f : α → β) : (g.map f).size = g.size := by
  simp [size, map]

theorem isEmpty_iff : g.isEmpty = true ↔ g.size = 0 := decide_eq_true_iff

theorem mem_categories_iff (k : Category) : k ∈ g.categories ↔ g.bucket k ≠ [] := by
  cases k <;> simp [categories, Category.all]

theorem categories_sublist : g.categories.Sublist Category.all := List.filter_sublist

theorem nodup_categories : g.categories.Nodup :=
  g.categories_sublist.nodup (by decide)

/-- There are several categories when there are two that differ. -/
theorem hasSeveralCategories_iff : g.hasSeveralCategories = true ↔
    ∃ k ∈ g.categories, ∃ k' ∈ g.categories, k ≠ k' := by
  rw [hasSeveralCategories, decide_eq_true_iff, ← List.toFinset_card_of_nodup g.nodup_categories,
    Finset.one_lt_card]
  simp only [List.mem_toFinset]

end Queries

/-! ## Runs -/

/-- Operations one after the other, from a grouping of some values to a grouping of others. -/
inductive Run : Type → Type → Type 1 where
  | done {α : Type} : Run α α
  | push {α β : Type} (category : Category) (a : α) (rest : Run α β) : Run α β
  | map {α β γ : Type} (f : α → β) (rest : Run β γ) : Run α γ

namespace Run

variable {α β : Type}

/-- What a run makes of a grouping. -/
def apply {α β : Type} : Run α β → Grouping α → Grouping β
  | done, g => g
  | push category a rest, g => rest.apply (g.push category a)
  | map f rest, g => rest.apply (g.map f)

/-- What a run makes of a value that is there when it begins: all its functions, in order. -/
def carry {α β : Type} : Run α β → α → β
  | done, a => a
  | push _ _ rest, a => rest.carry a
  | map f rest, a => rest.carry (f a)

/-- The values that a run pushes, with their categories and in order, each of them as the functions
behind its push leave it. -/
def pushed {α β : Type} : Run α β → List (Category × β)
  | done => []
  | push category a rest => (category, rest.carry a) :: rest.pushed
  | map _ rest => rest.pushed

/-- What a list holds comes first, carried through the run, and then what the run pushes to it. By
induction on the run: its first operation changes the grouping it goes on with. -/
theorem bucket_apply (run : Run α β) (g : Grouping α) (k : Category) :
    (run.apply g).bucket k =
      (g.bucket k).map run.carry ++ (run.pushed.filter fun p => p.1 = k).map Prod.snd := by
  induction run with
  | done => simp [apply, carry, pushed]
  | push category a rest ih =>
    rw [apply, ih, bucket_push, List.map_append, List.append_assoc]
    by_cases h : category = k <;> simp [carry, pushed, h]
  | map f rest ih =>
    rw [apply, ih, bucket_map, List.map_map]
    rfl

/-- Values may be carried to the end of the run before they are grouped. -/
theorem apply_empty (run : Run α β) :
    run.apply empty = (ofList (fun p => some p.1) run.pushed).map Prod.snd := by
  refine ext_bucket fun k => ?_
  rw [bucket_apply, bucket_empty, bucket_map, bucket_ofList]
  simp

end Run

/-- What a grouping tells of the values that were pushed to it, one after the other. -/
structure Holds {α : Type} (g : Grouping α) (pushed : List (Category × α)) : Prop where
  /-- Each list holds what was pushed under its category, in the order of the pushes. -/
  bucket : ∀ k, g.bucket k = (pushed.filter fun p => p.1 = k).map Prod.snd
  size : g.size = pushed.length
  isEmpty : g.isEmpty = true ↔ pushed = []
  mem_categories : ∀ k, k ∈ g.categories ↔ ∃ p ∈ pushed, p.1 = k
  once : g.categories.Nodup
  inOrder : g.categories.Sublist [.transfer, .approval, .stakeAuthorityChange]
  several : g.hasSeveralCategories = true ↔ ∃ p ∈ pushed, ∃ q ∈ pushed, p.1 ≠ q.1

/-- However pushes and maps follow each other, a grouping that was empty holds what was pushed, as
the maps behind each push have left it. -/
theorem Run.apply_holds {α β : Type} (run : Run α β) : (run.apply empty).Holds run.pushed := by
  have bucket (k : Category) : (run.apply empty).bucket k =
      (run.pushed.filter fun p => p.1 = k).map Prod.snd := by
    rw [bucket_apply, bucket_empty]
    rfl
  have size : (run.apply empty).size = run.pushed.length := by
    rw [apply_empty, size_map, size_ofList]
    simp
  have mem (k : Category) : k ∈ (run.apply empty).categories ↔ ∃ p ∈ run.pushed, p.1 = k := by
    rw [mem_categories_iff, bucket]
    simp
  constructor
  case bucket => exact bucket
  case size => exact size
  case isEmpty => rw [isEmpty_iff, size, List.length_eq_zero_iff]
  case mem_categories => exact mem
  case once => exact nodup_categories _
  case inOrder => exact categories_sublist _
  case several =>
    rw [hasSeveralCategories_iff]
    simp only [mem]
    constructor
    · rintro ⟨_, ⟨p, hp, rfl⟩, _, ⟨q, hq, rfl⟩, distinct⟩
      exact ⟨p, hp, q, hq, distinct⟩
    · rintro ⟨p, hp, q, hq, distinct⟩
      exact ⟨p.1, ⟨p, hp, rfl⟩, q.1, ⟨q, hq, rfl⟩, distinct⟩

example : (Run.push .approval 1 (.map (· + 1) (.push .transfer 5 (.map Nat.repr .done)))).apply
    empty = ⟨["5"], ["2"], []⟩ := by decide

end SigningPreview.Grouping
