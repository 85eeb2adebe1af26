import SigningPreview.Proofs.Report.Agreement

/-! # Views stand where they belong

Three readings of an effect have to agree: which category it is filed under, whether its amounts
pass the check, and what is shown of it. First the check of a balance change is seen to fail with
the error of the first side that cannot be read, as every view does. Then the view of an effect is
decided by the other two (`Effect.ViewMatches`), and since a section takes the effects of its
category, no report has a view in the section of another (`Report.Filed`). -/
namespace SigningPreview

/-! ## Amounts -/

namespace BalanceChange

variable {b : BalanceChange} {error : AmountError}

theorem check_eq_error_iff : b.check = .error error ↔ b.fault? = some error := by
  unfold check values fault?
  cases hb : b.before.value with
  | error e => simp [bind, Except.bind, Except.map]
  | ok m => cases ha : b.after.value <;> simp [bind, Except.bind, Except.map, pure, Except.pure]

/-- The first side is read first. -/
theorem check_of_before (h : b.before.value = .error error) : b.check = .error error := by
  rw [check, values_before h]
  rfl

end BalanceChange

/-! ## Effects -/

namespace Effect

variable {c : Chain} {e : Effect c} {error : AmountError}

/-- The amounts that an effect gives as text. -/
def amount? (e : Effect c) : Option BalanceChange := e.payload.bind c.amount?

theorem fault?_eq_some_iff :
    e.fault? = some error ↔ ∃ b, e.amount? = some b ∧ b.check = .error error := by
  have assoc : e.fault? = e.amount?.bind BalanceChange.fault? :=
    (Option.bind_assoc e.payload c.amount? BalanceChange.fault?).symm
  simp only [assoc, Option.bind_eq_some_iff, BalanceChange.check_eq_error_iff]

theorem view_eq_none_iff : e.view = .ok none ↔ e.category? = none := by
  rcases e.view_cases with ⟨hk, hv⟩ | ⟨v, hk, -, hv⟩ | ⟨k, _, hk, -, hv⟩
  · simp [hk, hv]
  · simp [hk, hv]
  · simp [hk, hv]

theorem view_eq_error_iff : e.view = .error error ↔ e.fault? = some error := by
  rcases e.view_cases with ⟨hk, hv⟩ | ⟨v, -, hf, hv⟩ | ⟨k, error', -, hf, hv⟩
  · simp [hv, fault?_of_unrecognized hk]
  · simp [hv, hf]
  · simp [hv, hf]

/-- A view is of the category of its effect. -/
theorem category?_of_view {v : View} (h : e.view = .ok (some v)) :
    e.category? = some v.category := by
  rcases e.view_cases with ⟨-, hv⟩ | ⟨v', hk, -, hv⟩ | ⟨k, _, -, -, hv⟩
  · rw [hv] at h
    cases h
  · rw [hv] at h
    cases h
    exact hk
  · rw [hv] at h
    cases h

theorem exists_view_of_category {k : Category} (hk : e.category? = some k)
    (hf : e.fault? = none) : ∃ v, e.view = .ok (some v) ∧ v.category = k := by
  rcases e.view_cases with ⟨hk', -⟩ | ⟨v, hk', -, hv⟩ | ⟨_, _, -, hf', -⟩
  · rw [hk] at hk'
    cases hk'
  · rw [hk] at hk'
    exact ⟨v, hv, (Option.some.inj hk').symm⟩
  · rw [hf] at hf'
    cases hf'

/-- How the view of an effect goes with its category and with the check of its amounts. -/
structure ViewMatches (e : Effect c) : Prop where
  /-- Nothing is shown of an effect exactly when it is filed nowhere. -/
  unfiled : e.view = .ok none ↔ e.category? = none
  unrecognized : e.category? = none ↔ e.payload = none
  /-- A view fails exactly where the check does, and with the same error. -/
  unreadable : ∀ error, e.view = .error error ↔ ∃ b, e.amount? = some b ∧ b.check = .error error
  /-- When both sides are unreadable, the error is that of the first. -/
  before : ∀ b error, e.amount? = some b → b.before.value = .error error → e.view = .error error
  /-- The amounts of Solana are numbers already. -/
  solana : c = .svm → ∀ error, e.view ≠ .error error
  /-- In every other case there is a view, and it is of the category of the effect. -/
  shown : ∀ k, e.category? = some k → (∀ b, e.amount? = some b → b.check = .ok ()) →
    ∃ v, e.view = .ok (some v) ∧ v.category = k

theorem viewMatches (e : Effect c) : e.ViewMatches := by
  have unreadable (error : AmountError) :
      e.view = .error error ↔ ∃ b, e.amount? = some b ∧ b.check = .error error :=
    view_eq_error_iff.trans fault?_eq_some_iff
  constructor
  case unfiled => exact view_eq_none_iff
  case unrecognized => exact category?_eq_none_iff
  case unreadable => exact unreadable
  case before =>
    intro b error hb hbefore
    exact (unreadable error).2 ⟨b, hb, BalanceChange.check_of_before hbefore⟩
  case solana =>
    rintro rfl error hv
    obtain ⟨b, hb, -⟩ := (unreadable error).1 hv
    obtain ⟨p, -, hp⟩ := Option.bind_eq_some_iff.1 hb
    cases hp
  case shown =>
    intro k hk readable
    refine exists_view_of_category hk ?_
    cases hf : e.fault? with
    | none => rfl
    | some error =>
      obtain ⟨b, hb, hcheck⟩ := fault?_eq_some_iff.1 hf
      rw [readable b hb] at hcheck
      cases hcheck

end Effect

/-! ## Reports -/

/-- Every entry stands in the section of its view's category. -/
def Report.Filed (p : Report) : Prop :=
  ∀ s ∈ p.sections, ∀ entry ∈ s.entries, entry.view.category = s.category

namespace Outcome

variable {c : Chain}

theorem filed_lenient (r : Response (Record c)) : (lenient r).report.Filed := by
  intro s hs entry hentry
  rw [sections_lenient] at hs
  obtain ⟨k, -, rfl⟩ := List.mem_map.1 hs
  obtain ⟨e, he, hshown⟩ := List.mem_filterMap.1 hentry
  have hk : e.category? = some k := of_decide_eq_true (List.mem_filter.1 he).2
  unfold Effect.shown? at hshown
  split at hshown
  · next v hv =>
    cases hshown
    rw [Effect.category?_of_view hv] at hk
    exact Option.some.inj hk
  · cases hshown

/-- The strict rules refuse a response or make no difference to it. -/
theorem eq_lenient_of_ofResponse {isStrict : Bool} {r : Response (Record c)} {o : Outcome}
    (h : ofResponse isStrict r = .ok o) : o = lenient r := by
  cases isStrict with
  | false => exact (Except.ok.inj h).symm
  | true =>
    obtain ⟨g, hg, -⟩ := exists_of_bind_eq_ok h
    have sound := Grouping.sound_of_ofRecordsStrict hg
    exact Except.ok.inj (h.symm.trans (strict_of_sound sound))

/-- Category, check and view of every effect agree, so every report of a run is filed. -/
theorem views_match (c : Chain) :
    (∀ e : Effect c, e.ViewMatches) ∧
      ∀ (isStrict : Bool) (r : Response (Record c)) (o : Outcome),
        ofResponse isStrict r = .ok o → o.report.Filed := by
  refine ⟨Effect.viewMatches, ?_⟩
  intro isStrict r o h
  rw [eq_lenient_of_ofResponse h]
  exact filed_lenient r

/-- A transfer and an approval, and between them one of each with an amount that cannot be read and
one that is not recognized. -/
def mixedResponse : Response (Record .evm) where
  action := .none
  warnings := []
  failure := none
  effects :=
    [⟨"Send 5 DAI", .known .erc20Transfer, .ofPayload (some (.erc20Transfer
        ⟨⟨⟨"5"⟩, ⟨"0"⟩⟩, .blank, { Asset.blank with symbol := "DAI" }⟩))⟩,
      ⟨"Send some", .other "", .ofPayload (some (.nativeTransfer ⟨⟨⟨"1"⟩, ⟨""⟩⟩, .blank, .blank⟩))⟩,
      ⟨"Something", .other "", .ofPayload none⟩,
      ⟨"Approve some", .other "", .ofPayload (some (.erc1155Operator
        ⟨⟨⟨"all"⟩, ⟨"most"⟩⟩, .blank, .blank, .blank, none⟩))⟩,
      ⟨"Approve all", .known .erc1155ApprovalForAll, .ofPayload (some (.erc1155Operator
        ⟨⟨⟨"0"⟩, ⟨"1"⟩⟩, .blank, .blank, .account "0x1e0049783f008a0085193e00003d00cd54003c71",
          none⟩))⟩]

theorem views_match_mixedResponse :
    ∃ o, ofResponse false mixedResponse = .ok o ∧
      (o.report.sections.map fun s => (s.category, s.entries.length)) =
        [(.transfer, 1), (.approval, 1)] ∧
      o.report.Filed := by
  have ran : ofResponse false mixedResponse = .ok (lenient mixedResponse) := rfl
  exact ⟨_, ran, by decide +kernel, (views_match .evm).2 false mixedResponse _ ran⟩

end Outcome

end SigningPreview
