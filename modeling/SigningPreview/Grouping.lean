import SigningPreview.Kind

/-! # Values by category

A grouping keeps one list for each category. Values are put at the end of the list of their
category, so each list holds them in the order in which they came. -/
namespace SigningPreview

/-- A list of values for each category. -/
structure Grouping (α : Type) where
  transfers : List α
  approvals : List α
  stakeAuthorityChanges : List α
  deriving DecidableEq

namespace Grouping

variable {α β : Type}

def empty : Grouping α := ⟨[], [], []⟩

/-- The values of a category. -/
def bucket (g : Grouping α) : Category → List α
  | .transfer => g.transfers
  | .approval => g.approvals
  | .stakeAuthorityChange => g.stakeAuthorityChanges

/-- Puts a value at the end of the list of a category. -/
def push (g : Grouping α) (category : Category) (a : α) : Grouping α :=
  match category with
  | .transfer => { g with transfers := g.transfers ++ [a] }
  | .approval => { g with approvals := g.approvals ++ [a] }
  | .stakeAuthorityChange => { g with stakeAuthorityChanges := g.stakeAuthorityChanges ++ [a] }

/-- How many values there are in all. -/
def size (g : Grouping α) : Nat :=
  g.transfers.length + g.approvals.length + g.stakeAuthorityChanges.length

def isEmpty (g : Grouping α) : Bool := g.size = 0

/-- The categories that have values, in the order in which they are shown. -/
def categories (g : Grouping α) : List Category :=
  Category.all.filter fun category => !(g.bucket category).isEmpty

def hasSeveralCategories (g : Grouping α) : Bool := 1 < g.categories.length

def map (f : α → β) (g : Grouping α) : Grouping β :=
  ⟨g.transfers.map f, g.approvals.map f, g.stakeAuthorityChanges.map f⟩

/-- Replaces the values one by one, transfers before approvals before stake authority changes. -/
def mapM {m : Type → Type} [Monad m] (f : α → m β) (g : Grouping α) : m (Grouping β) := do
  let transfers ← g.transfers.mapM f
  let approvals ← g.approvals.mapM f
  let stakeAuthorityChanges ← g.stakeAuthorityChanges.mapM f
  pure ⟨transfers, approvals, stakeAuthorityChanges⟩

/-- Groups the values that have a category; the others are left out. -/
def ofList (category? : α → Option Category) (as : List α) : Grouping α :=
  as.foldl (fun g a => match category? a with | some c => g.push c a | none => g) empty

end Grouping

end SigningPreview
