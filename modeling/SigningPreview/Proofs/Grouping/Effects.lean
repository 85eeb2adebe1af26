import Mathlib.Logic.ExistsUnique
import SigningPreview.Proofs.Grouping.Partition
import SigningPreview.Strict

/-! # Effects by category

Grouping effects is the stable partition of a list: each list of the grouping is the part of its
category, as it was, and nothing that is recognized is lost or doubled (`Grouping.Partitions`). It
goes well with longer lists and with replacing effects one by one, as long as they keep their
categories (`Grouping.ofEffects_partitions`). -/
namespace SigningPreview

variable {c : Chain}

namespace Effect

/-- A recognized effect has a category, by the kind of its payload. -/
theorem exists_category_of_payload {e : Effect c} (h : e.payload.isSome) :
    ∃ k, e.category? = some k := by
  obtain ⟨p, hp⟩ := Option.isSome_iff_exists.1 h
  exact ⟨(c.kind p).category, by simp [category?, kind?, hp]⟩

theorem isSome_category? (e : Effect c) : e.category?.isSome = e.payload.isSome := by
  simp [category?, kind?]

/-- No payload of an EVM chain is a change of stake authority. -/
theorem category?_evm (e : Effect .evm) : e.category? ≠ some .stakeAuthorityChange := by
  cases hp : e.payload with
  | none => simp [category?, kind?, hp]
  | some p => cases p <;> simp [category?, kind?, hp, Chain.kind, Evm.Payload.kind,
      PayloadKind.category]

end Effect

namespace Grouping

/-- What makes a grouping the partition of a list of effects. -/
structure Partitions (g : Grouping (Effect c)) (es : List (Effect c)) : Prop where
  /-- Each list is the part of its category, unchanged and in order. -/
  bucket : ∀ k, g.bucket k = es.filter fun e => e.category? = some k
  once : ∀ e ∈ es, e.payload.isSome → ∃! k, e ∈ g.bucket k
  /-- Nothing is lost, doubled or made up. -/
  whole : (g.transfers ++ g.approvals ++ g.stakeAuthorityChanges).Perm
    (es.filter fun e => e.payload.isSome)
  size : g.size = es.countP fun e => e.payload.isSome
  evm : c = .evm → g.stakeAuthorityChanges = []

variable (es : List (Effect c))

theorem mem_bucket_ofEffects {e : Effect c} {k : Category} :
    e ∈ (ofEffects es).bucket k ↔ e ∈ es ∧ e.category? = some k := by
  rw [ofEffects, bucket_ofList, List.mem_filter, decide_eq_true_iff]

theorem existsUnique_bucket {e : Effect c} (he : e ∈ es) (h : e.payload.isSome) :
    ∃! k, e ∈ (ofEffects es).bucket k := by
  obtain ⟨k, hk⟩ := Effect.exists_category_of_payload h
  refine ⟨k, (mem_bucket_ofEffects es).2 ⟨he, hk⟩, fun k' hk' => ?_⟩
  obtain ⟨-, hk'⟩ := (mem_bucket_ofEffects es).1 hk'
  rw [hk] at hk'
  exact (Option.some.inj hk').symm

/-- The three lists together are the recognized effects, by induction on the list: an effect goes
to the front of the list of its category, or nowhere. -/
theorem perm_ofEffects :
    ((ofEffects es).bucket .transfer ++ (ofEffects es).bucket .approval
      ++ (ofEffects es).bucket .stakeAuthorityChange).Perm
      (es.filter fun e => e.payload.isSome) := by
  simp only [ofEffects, bucket_ofList]
  induction es with
  | nil => rfl
  | cons e es ih =>
    have recognized := e.isSome_category?
    cases hk : e.category? with
    | none =>
      rw [hk] at recognized
      simpa [hk, ← recognized] using ih
    | some k =>
      rw [hk] at recognized
      cases k with
      | transfer => simpa [hk, ← recognized] using ih
      | approval =>
        rw [List.append_assoc] at ih ⊢
        simpa [hk, ← recognized] using List.perm_middle.trans (ih.cons e)
      | stakeAuthorityChange =>
        have middle := List.perm_middle.trans (ih.cons e)
        simpa [hk, ← recognized] using middle

theorem partitions : (ofEffects es).Partitions es where
  bucket := bucket_ofList Effect.category? es
  once _ := existsUnique_bucket es
  whole := perm_ofEffects es
  size := by
    simp only [ofEffects, size_ofList, Effect.isSome_category?]
  evm := by
    rintro rfl
    refine (bucket_ofList Effect.category? es .stakeAuthorityChange).trans ?_
    exact List.filter_eq_nil_iff.2 fun e _ => by simpa using e.category?_evm

/-- Effects are grouped by the stable partition of their list. Two lists in a row are grouped as
their groupings in a row, and effects that keep their categories may be replaced before they are
grouped as well as afterwards. -/
theorem ofEffects_partitions (c : Chain) :
    (∀ es : List (Effect c), (ofEffects es).Partitions es) ∧
    (∀ (es fs : List (Effect c)) k,
      (ofEffects (es ++ fs)).bucket k = (ofEffects es).bucket k ++ (ofEffects fs).bucket k) ∧
    ∀ (c' : Chain) (f : Effect c → Effect c') (es : List (Effect c)),
      (∀ e ∈ es, (f e).category? = e.category?) →
      ofEffects (es.map f) = (ofEffects es).map f :=
  ⟨partitions, bucket_ofList_append Effect.category?, fun _ _ _ => ofList_map⟩

end Grouping

end SigningPreview
