import SigningPreview.Proofs.Grouping.Partition
import SigningPreview.Proofs.Strict.Record

/-! # The verdict of strict grouping

Strict grouping goes through a list from its beginning. As long as records are sound their effects
are grouped as a lenient run would group them (`addStrict_of_sound`); the first one that is not
sound ends the run with its own refusal (`addStrict_of_fails`). Since a list is sound or has a
first record that is not, `ofRecordsStrict_verdict` says when there is a grouping and which refusal
there is otherwise. -/
namespace SigningPreview

variable {c : Chain}

namespace Record

theorem category?_decode {r : Record c} {p : c.Payload} (h : Chain.Only r.data p) :
    r.decode.category? = some (c.kind p).category := by
  rw [Effect.category?, Effect.kind?, decode_payload_of_only h]; rfl

/-- A sound record is accepted at any place, and its effect grouped by the category it has. -/
theorem accept_push {r : Record c} (h : r.Sound) (index : Nat) (g : Grouping (Effect c)) :
    ∃ k, r.accept index = .ok (k, r.decode) ∧
      g.push k r.decode = g.add Effect.category? r.decode := by
  obtain ⟨p, hp⟩ := h
  refine ⟨_, accept_of_sound index hp, ?_⟩
  rw [Grouping.add, category?_decode hp.only]

end Record

namespace Grouping

/-! ## Steps -/

theorem addStrict_cons_of_sound {r : Record c} (h : r.Sound) (index : Nat)
    (g : Grouping (Effect c)) (rs : List (Record c)) :
    addStrict index g (r :: rs) = addStrict (index + 1) (g.add Effect.category? r.decode) rs := by
  obtain ⟨k, hk, hg⟩ := r.accept_push h index g
  rw [addStrict, hk, ← hg]; rfl

theorem addStrict_cons_of_fails {r : Record c} {index : Nat} {refusal : Refusal}
    (h : r.Fails index refusal) (g : Grouping (Effect c)) (rs : List (Record c)) :
    addStrict index g (r :: rs) = .error refusal := by
  rw [addStrict, Record.accept_of_fails h]; rfl

/-! ## Runs -/

theorem addStrict_of_sound {rs : List (Record c)} (h : ∀ r ∈ rs, r.Sound) (index : Nat)
    (g : Grouping (Effect c)) :
    addStrict index g rs = .ok ((rs.map Record.decode).foldl (add Effect.category?) g) := by
  induction rs generalizing index g with
  | nil => rfl
  | cons r rs ih =>
    obtain ⟨hr, hrs⟩ := List.forall_mem_cons.1 h
    rw [addStrict_cons_of_sound hr, ih hrs]; rfl

theorem addStrict_of_fails {before after : List (Record c)} {r : Record c} {index : Nat}
    {refusal : Refusal} (hbefore : ∀ s ∈ before, s.Sound)
    (h : r.Fails (index + before.length) refusal) (g : Grouping (Effect c)) :
    addStrict index g (before ++ r :: after) = .error refusal := by
  induction before generalizing index g with
  | nil => exact addStrict_cons_of_fails h g after
  | cons s before ih =>
    obtain ⟨hs, hbefore⟩ := List.forall_mem_cons.1 hbefore
    rw [List.cons_append, addStrict_cons_of_sound hs]
    rw [List.length_cons, Nat.add_comm before.length, ← Nat.add_assoc] at h
    exact ih hbefore h _

/-! ## Whole lists -/

/-- The grouping of sound records is the one that leaves nothing else out. -/
theorem ofRecordsStrict_of_sound {rs : List (Record c)} (h : ∀ r ∈ rs, r.Sound) :
    ofRecordsStrict rs = .ok (ofEffects (rs.map Record.decode)) :=
  addStrict_of_sound h 0 empty

/-- The place of a record before which all records are sound. -/
def FirstFailure (rs : List (Record c)) (i : Nat) (r : Record c) : Prop :=
  rs[i]? = some r ∧ ¬ r.Sound ∧ ∀ (j : Nat) (s : Record c), j < i → rs[j]? = some s → s.Sound

theorem ofRecordsStrict_of_firstFailure {rs : List (Record c)} {i : Nat} {r : Record c}
    {refusal : Refusal} (h : FirstFailure rs i r) (hr : r.Fails i refusal) :
    ofRecordsStrict rs = .error refusal := by
  obtain ⟨hi, -, hbefore⟩ := h
  obtain ⟨hlt, hget⟩ := List.getElem?_eq_some_iff.1 hi
  have hlen : (rs.take i).length = i := List.length_take_of_le (Nat.le_of_lt hlt)
  have hsplit : rs = rs.take i ++ r :: rs.drop (i + 1) := by
    rw [← hget, List.getElem_cons_drop, List.take_append_drop]
  have hsound : ∀ s ∈ rs.take i, s.Sound := by
    intro s hs
    obtain ⟨j, hj, hjs⟩ := List.mem_take_iff_getElem.1 hs
    exact hbefore j s (by omega) (List.getElem?_eq_some_iff.2 ⟨by omega, hjs⟩)
  rw [hsplit]
  exact addStrict_of_fails hsound (by rwa [hlen, Nat.zero_add]) empty

theorem sound_or_firstFailure (rs : List (Record c)) :
    (∀ r ∈ rs, r.Sound) ∨ ∃ i r, FirstFailure rs i r := by
  obtain h | ⟨before, r, after, rfl, hbefore, hr⟩ := forall_or_first Record.Sound rs
  · exact .inl h
  · refine .inr ⟨before.length, r, by simp, hr, fun j s hj hs => ?_⟩
    rw [List.getElem?_append_left hj] at hs
    exact hbefore s (List.mem_of_getElem? hs)

theorem sound_of_ofRecordsStrict {rs : List (Record c)} {g : Grouping (Effect c)}
    (h : ofRecordsStrict rs = .ok g) : ∀ r ∈ rs, r.Sound := by
  refine (sound_or_firstFailure rs).resolve_right ?_
  rintro ⟨i, r, hi⟩
  obtain ⟨refusal, hr⟩ := (r.sound_or_fails i).resolve_left hi.2.1
  rw [ofRecordsStrict_of_firstFailure hi hr] at h
  cases h

/-- There is a grouping exactly when all records are sound. Otherwise the refusal is that of the
first record that is not sound, by the first rule which that record breaks; no record is ever
refused for want of a category. -/
theorem ofRecordsStrict_verdict (rs : List (Record c)) :
    ((∃ g, ofRecordsStrict rs = .ok g) ↔ ∀ r ∈ rs, r.Sound) ∧
    (∀ refusal, ofRecordsStrict rs = .error refusal ↔
      ∃ i r, FirstFailure rs i r ∧ r.Fails i refusal) ∧
    ∀ i, ofRecordsStrict rs ≠ .error (.unrecognized i) := by
  obtain h | ⟨i, r, hi⟩ := sound_or_firstFailure rs
  · have hok := ofRecordsStrict_of_sound h
    have none (i : Nat) (r : Record c) (hi : FirstFailure rs i r) : False :=
      hi.2.1 (h r (List.mem_of_getElem? hi.1))
    rw [hok]
    refine ⟨⟨fun _ => h, fun _ => ⟨_, rfl⟩⟩, fun refusal => ⟨nofun, ?_⟩, fun i => nofun⟩
    rintro ⟨i, r, hi, -⟩
    exact (none i r hi).elim
  · obtain ⟨refusal, hr⟩ := (r.sound_or_fails i).resolve_left hi.2.1
    have herr := ofRecordsStrict_of_firstFailure hi hr
    rw [herr]
    have unsound : ¬ ∀ r ∈ rs, r.Sound := fun h => hi.2.1 (h r (List.mem_of_getElem? hi.1))
    refine ⟨⟨nofun, fun h => absurd h unsound⟩, fun refusal' => ?_, ?_⟩
    · constructor
      · intro h
        cases h
        exact ⟨i, r, hi, hr⟩
      · rintro ⟨j, s, hj, hs⟩
        rw [← herr, ofRecordsStrict_of_firstFailure hj hs]
    · intro j h
      cases h
      exact hr.ne_unrecognized j rfl

end Grouping

end SigningPreview
