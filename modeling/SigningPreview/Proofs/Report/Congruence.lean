import SigningPreview.Proofs.Report.Agreement

/-! # What a run looks at

Of an effect a run looks at the headline, the category and the view, and of a record besides at the
kinds of its payloads. Effects that are alike in that are grouped alike, list by list
(`Grouping.alike_ofEffects`), so records that are alike lead to the same lenient outcome
(`Outcome.lenient_congr`). Strict grouping looks at everything in a record, but what it finds is a
verdict on each; where the verdicts are the same as well, so is the strict outcome
(`Outcome.strict_congr`). -/
namespace SigningPreview

variable {c : Chain}

/-! ## Effects and records that are alike -/

/-- Two effects that no report tells apart. -/
structure Effect.Alike (e e' : Effect c) : Prop where
  headline : e.headline = e'.headline
  category : e.category? = e'.category?
  view : e.view = e'.view

/-- Two records that no lenient run tells apart. -/
structure Record.Alike (s s' : Record c) : Prop where
  kinds : s.kinds = s'.kinds
  effect : s.decode.Alike s'.decode

namespace Effect.Alike

variable {e e' : Effect c}

theorem shown?_eq (h : e.Alike e') : e.shown? = e'.shown? := by
  rw [shown?, shown?, h.view, h.headline]

theorem entryEvents_eq (h : e.Alike e') : e.entryEvents = e'.entryEvents := by
  rw [entryEvents, entryEvents, h.view, h.headline]

theorem groupEvents_eq (h : e.Alike e') : e.groupEvents = e'.groupEvents := by
  rw [groupEvents, groupEvents, h.category, h.headline]

end Effect.Alike

theorem Record.Alike.decodeEvents_eq {s s' : Record c} (h : s.Alike s') :
    s.decodeEvents = s'.decodeEvents := by
  have headline : s.headline = s'.headline := h.effect.headline
  rw [decodeEvents, decodeEvents, h.kinds, headline]

/-! ## Groupings -/

/-- Two groupings whose lists hold effects that are alike. -/
def Grouping.Alike (g g' : Grouping (Effect c)) : Prop :=
  ∀ k, List.Forall₂ Effect.Alike (g.bucket k) (g'.bucket k)

theorem Grouping.alike_ofEffects {es es' : List (Effect c)} (h : List.Forall₂ Effect.Alike es es') :
    (ofEffects es).Alike (ofEffects es') := by
  intro k
  rw [ofEffects, ofEffects, bucket_ofList, bucket_ofList]
  refine List.rel_filter (fun e e' alike => ?_) h
  simp only [alike.category]

namespace Grouping.Alike

variable {g g' : Grouping (Effect c)}

theorem categories_eq (h : g.Alike g') : g.categories = g'.categories := by
  refine List.filter_congr fun k _ => ?_
  have alike := h k
  generalize g.bucket k = es, g'.bucket k = es' at alike ⊢
  cases alike with
  | nil => rfl
  | cons _ _ => rfl

theorem event_eq (h : g.Alike g') (total : Nat) : g.event total = g'.event total := by
  have transfers : g.transfers.length = g'.transfers.length := (h .transfer).length_eq
  have approvals : g.approvals.length = g'.approvals.length := (h .approval).length_eq
  have stakes : g.stakeAuthorityChanges.length = g'.stakeAuthorityChanges.length :=
    (h .stakeAuthorityChange).length_eq
  rw [event, event, transfers, approvals, stakes]

theorem sections_eq (h : g.Alike g') :
    g.categories.map (Report.sectionOf g) = g'.categories.map (Report.sectionOf g') := by
  rw [h.categories_eq]
  refine List.map_congr_left fun k _ => ?_
  rw [Report.sectionOf, Report.sectionOf,
    filterMap_eq_of_forall₂ (h k) fun _ _ => Effect.Alike.shown?_eq]

theorem events_eq (h : g.Alike g') : Report.events g = Report.events g' := by
  have entries (k : Category) : (g.bucket k).flatMap Effect.entryEvents =
      (g'.bucket k).flatMap Effect.entryEvents :=
    flatMap_eq_of_forall₂ (h k) fun _ _ => Effect.Alike.entryEvents_eq
  simp only [Report.events, h.categories_eq, entries]

/-- The effects of a response are in its report only as they are grouped. -/
theorem report_eq (h : g.Alike g') (r : Response (Effect c)) (es : List (Effect c)) :
    Report.ofGrouping r g = Report.ofGrouping { r with effects := es } g' := by
  rw [Report.ofGrouping, hasSeveralCategories, h.sections_eq, h.categories_eq]
  rfl

end Grouping.Alike

/-! ## Runs -/

namespace Outcome

variable {rs rs' : List (Record c)} (r : Response (Record c))

/-- Records that are alike have the same lenient outcome. -/
theorem lenient_congr (h : List.Forall₂ Record.Alike rs rs') :
    lenient { r with effects := rs } = lenient { r with effects := rs' } := by
  have decoded : List.Forall₂ Effect.Alike (rs.map Record.decode) (rs'.map Record.decode) :=
    List.rel_map (fun _ _ alike => alike.effect) h
  have groupings := Grouping.alike_ofEffects decoded
  have warnings : rs.flatMap Record.decodeEvents = rs'.flatMap Record.decodeEvents :=
    flatMap_eq_of_forall₂ h fun _ _ => Record.Alike.decodeEvents_eq
  have drops : (rs.map Record.decode).flatMap Effect.groupEvents =
      (rs'.map Record.decode).flatMap Effect.groupEvents :=
    flatMap_eq_of_forall₂ decoded fun _ _ => Effect.Alike.groupEvents_eq
  unfold lenient
  dsimp only
  rw [warnings, drops, groupings.events_eq, groupings.event_eq, h.length_eq,
    groupings.report_eq _ (rs'.map Record.decode)]
  rfl

end Outcome

/-! ## Strict grouping -/

/-- Two records on which the strict rules have the same verdict, wherever they stand. -/
def Record.SameVerdict (s s' : Record c) : Prop :=
  ∀ index, verdict (s.accept index) = verdict (s'.accept index)

namespace Record

variable {s s' : Record c}

/-- Whether a record is decided on is up to its tag and the kinds of its payloads. -/
theorem decodeStrict_congr (tag : s.tag = s'.tag) (kinds : s.kinds = s'.kinds) :
    (∃ e, s.decodeStrict = .error e ∧ s'.decodeStrict = .error e) ∨
      (s.decodeStrict = .ok s.decode ∧ s'.decodeStrict = .ok s'.decode) := by
  unfold decodeStrict
  rw [tag, kinds]
  split
  · exact .inl ⟨_, rfl, rfl⟩
  · split
    · exact .inl ⟨_, rfl, rfl⟩
    · exact .inr ⟨rfl, rfl⟩
  · exact .inl ⟨_, rfl, rfl⟩

/-- Whether it is accepted is moreover up to the check and the category of its effect. -/
theorem sameVerdict (tag : s.tag = s'.tag) (kinds : s.kinds = s'.kinds)
    (check : s.decode.check = s'.decode.check)
    (category : s.decode.category? = s'.decode.category?) : s.SameVerdict s' := by
  intro index
  rcases decodeStrict_congr tag kinds with ⟨e, h, h'⟩ | ⟨h, h'⟩
  · rw [accept, accept, h, h']
  · rw [accept_of_ok index h, accept_of_ok index h', check, category]
    cases s'.decode.check with
    | error violation => rfl
    | ok _ => cases s'.decode.category? <;> rfl

end Record

namespace Grouping

variable {rs rs' : List (Record c)}

/-- The same verdicts add up to the same verdict, whatever was grouped before. -/
theorem addStrict_congr (h : List.Forall₂ Record.SameVerdict rs rs') (index : Nat)
    (g g' : Grouping (Effect c)) :
    verdict (addStrict index g rs) = verdict (addStrict index g' rs') := by
  induction h generalizing index g g' with
  | nil => rfl
  | cons same _ ih =>
    rw [addStrict, addStrict]
    rcases verdict_cases (same index) with ⟨refusal, hs, hs'⟩ | ⟨accepted, accepted', hs, hs'⟩
    · rw [hs, hs']
      rfl
    · rw [hs, hs']
      exact ih (index + 1) _ _

theorem ofRecordsStrict_congr (h : List.Forall₂ Record.SameVerdict rs rs') :
    verdict (ofRecordsStrict rs) = verdict (ofRecordsStrict rs') :=
  addStrict_congr h 0 empty empty

end Grouping

/-- Records that are alike and have the same verdicts have the same strict outcome. -/
theorem Outcome.strict_congr {rs rs' : List (Record c)} (r : Response (Record c))
    (h : List.Forall₂ Record.Alike rs rs') (verdicts : List.Forall₂ Record.SameVerdict rs rs') :
    strict { r with effects := rs } = strict { r with effects := rs' } := by
  rcases verdict_cases (Grouping.ofRecordsStrict_congr verdicts) with
    ⟨refusal, hg, hg'⟩ | ⟨g, g', hg, hg'⟩
  · rw [strict, strict, hg, hg']
    rfl
  · rw [strict_of_sound (Grouping.sound_of_ofRecordsStrict hg),
      strict_of_sound (Grouping.sound_of_ofRecordsStrict hg'), lenient_congr r h]

end SigningPreview
